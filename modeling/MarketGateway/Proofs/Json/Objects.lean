import Mathlib.Data.List.TakeWhile
import MarketGateway.Json.Form
import MarketGateway.Proofs.Json.Extension
import MarketGateway.Proofs.Json.Members

/-!
# Objects from the texts of their members

An object is written around the texts of its members, each of which is read from a text of its own
(`MemberText`). It is read as the object of the values of these texts, put in one after another:
`parse_objectText`, by induction on the members that are left (`readMembers_texts`).
-/

namespace MarketGateway.Json

/-- Reads a whole text as a value that stands inside a container. -/
def parseInside (text : String) : Except Fault Json :=
  readAll (fun depth => anyValue (depth - 1)) text

/-- A member of an object with its texts: a string for the key, and any value. -/
structure MemberText where
  keyText : String
  valueText : String
  key : String
  value : Json
  readsKey : readAll Form.text.read keyText = .ok key
  readsValue : parseInside valueText = .ok value

def MemberText.text (member : MemberText) : String := member.keyText ++ ":" ++ member.valueText

def MemberText.entry (member : MemberText) : String × Json := (member.key, member.value)

/-- The text of an object with such members, in their order. -/
def objectText (members : List MemberText) : String :=
  "\x7b" ++ String.intercalate "," (members.map MemberText.text) ++ "\x7d"

/-! ## Texts that are read as a whole -/

theorem skipBlank_append {blanks : List Char} (hBlank : skipBlank blanks = []) (cs : List Char) :
    skipBlank (blanks ++ cs) = skipBlank cs := by
  exact List.dropWhile_append_of_pos (List.dropWhile_eq_nil_iff.mp hBlank)

theorem readAll_eq_ok {α : Type} {reader : Reader α} {text : String} {a : α} :
    readAll reader text = .ok a ↔
      ∃ rest, reader maxDepth text.toList = .ok (a, rest) ∧ skipBlank rest = [] := by
  unfold readAll
  cases reader maxDepth text.toList with
  | error fault => simp
  | ok result =>
    obtain ⟨b, rest⟩ := result
    by_cases hRest : skipBlank rest = []
    · simp [hRest]
    · simp [hRest]

/-- A blank may stand behind a value. -/
theorem stops_of_blank {blanks : List Char} (hBlank : skipBlank blanks = []) : Stops blanks := by
  intro c hc
  exact .inl (List.dropWhile_eq_nil_iff.mp hBlank c (List.mem_of_mem_head? hc))

namespace MemberText

/-- The text of a key is a quoted string, with blanks around it. -/
theorem key_spec (member : MemberText) :
    ∃ body left, skipBlank member.keyText.toList = '"' :: body ∧
      stringRest body = .ok (member.key, left) ∧ skipBlank left = [] := by
  obtain ⟨left, hRead, hBlank⟩ := readAll_eq_ok.mp member.readsKey
  simp only [Form.text, Form.converted, readText] at hRead
  split at hRead
  · cases hRead
  · next c body hSkip =>
    split at hRead
    · next hQuote =>
      subst hQuote
      split at hRead
      · cases hRead
      · next s rest hString =>
        cases hRead
        exact ⟨body, left, hSkip, hString, hBlank⟩
    · cases hRead

theorem value_spec (member : MemberText) :
    ∃ left, anyValue (maxDepth - 1) member.valueText.toList = .ok (member.value, left) ∧
      skipBlank left = [] :=
  readAll_eq_ok.mp member.readsValue

end MemberText

/-! ## Reading an object -/

/-- The members up to the closing brace, from the first on or behind another. -/
def textsFrom (first : Bool) : List MemberText → List Char
  | [] => ['\x7d']
  | member :: rest =>
    (if first then [] else [',']) ++
      (member.keyText.toList ++ (':' :: (member.valueText.toList ++ textsFrom false rest)))

theorem toList_text (member : MemberText) (cs : List Char) :
    member.text.toList ++ cs =
      member.keyText.toList ++ (':' :: (member.valueText.toList ++ cs)) := by
  simp [MemberText.text]

theorem toList_objectText (members : List MemberText) :
    (objectText members).toList = '\x7b' :: textsFrom true members := by
  have hTexts : List.intercalate [','] (members.map fun m => m.text.toList) ++ ['\x7d'] =
      textsFrom true members := by
    cases members with
    | nil => rfl
    | cons member rest =>
      induction rest generalizing member with
      | nil => simp [textsFrom, toList_text]
      | cons next rest ih =>
        have hRest := ih next
        simp only [List.map_cons, List.intercalate_cons_cons, List.append_assoc] at hRest ⊢
        rw [hRest, toList_text]
        rfl
  rw [objectText, String.toList_append, String.toList_append, String.toList_intercalate,
    List.map_map]
  exact congrArg ('\x7b' :: ·) hTexts

theorem stops_textsFrom (members : List MemberText) : Stops (textsFrom false members) := by
  cases members with
  | nil => simp [Stops, textsFrom]
  | cons member rest => simp [Stops, textsFrom]

theorem readValue_blank {blanks : List Char} (hBlank : skipBlank blanks = []) (fuel depth : Nat)
    (cs : List Char) : readValue fuel depth (blanks ++ cs) = readValue fuel depth cs := by
  cases fuel with
  | zero => rw [readValue, readValue]
  | succ fuel => rw [readValue_succ, readValue_succ, skipBlank_append hBlank]

theorem readMembers_blank {blanks : List Char} (hBlank : skipBlank blanks = []) (fuel depth : Nat)
    (first : Bool) (acc : List (String × Json)) (cs : List Char) :
    readMembers fuel depth first acc (blanks ++ cs) = readMembers fuel depth first acc cs := by
  cases fuel with
  | zero => rw [readMembers, readMembers]
  | succ fuel => rw [readMembers, readMembers, skipBlank_append hBlank]

/-- By induction on the members: each one is read from its texts as it is read from them alone. -/
theorem readMembers_texts (members : List MemberText) (fuel : Nat) (first : Bool)
    (acc : List (String × Json)) (hFuel : 2 * (textsFrom first members).length ≤ fuel) :
    readMembers fuel (maxDepth - 1) first acc (textsFrom first members) =
      .ok (object ((members.map MemberText.entry).foldl
        (fun members member => insert member.1 member.2 members) acc), []) := by
  induction members generalizing fuel first acc with
  | nil =>
    simp only [textsFrom, List.length_singleton] at hFuel ⊢
    obtain ⟨fuel, rfl⟩ := Nat.exists_eq_add_one_of_ne_zero (by omega : fuel ≠ 0)
    simp [readMembers, isBlank]
  | cons member rest ih =>
    obtain ⟨body, keyLeft, hKeySkip, hKey, hKeyLeft⟩ := member.key_spec
    obtain ⟨valueLeft, hValue, hValueLeft⟩ := member.value_spec
    simp only [textsFrom, List.length_append, List.length_cons] at hFuel
    obtain ⟨fuel, rfl⟩ := Nat.exists_eq_add_one_of_ne_zero (by omega : fuel ≠ 0)
    have hEnd : 0 < (textsFrom false rest).length := by cases rest <;> simp [textsFrom]
    have hQuote : skipBlank (member.keyText.toList ++
        (':' :: (member.valueText.toList ++ textsFrom false rest))) =
          '"' :: (body ++ (':' :: (member.valueText.toList ++ textsFrom false rest))) :=
      skipBlank_cons_more hKeySkip _
    have hColon : skipBlank (keyLeft ++
        (':' :: (member.valueText.toList ++ textsFrom false rest))) =
          ':' :: (member.valueText.toList ++ textsFrom false rest) := by
      rw [skipBlank_append hKeyLeft, skipBlank_cons (by decide)]
    have hRead : readValue fuel (maxDepth - 1) (member.valueText.toList ++ textsFrom false rest) =
        .ok (member.value, valueLeft ++ textsFrom false rest) :=
      (readsOn (stops_textsFrom rest) _).value hValue (by omega) (Nat.le_refl _)
    have hNext := ih fuel false (insert member.key member.value acc) (by omega)
    rw [readMembers]
    cases first with
    | true =>
      simp [textsFrom, hQuote, stringRest_more hKey, hColon, hRead, readMembers_blank hValueLeft,
        hNext, MemberText.entry]
    | false =>
      simp [textsFrom, hQuote, stringRest_more hKey, hColon, hRead, readMembers_blank hValueLeft,
        hNext, MemberText.entry, isBlank]

/-- **An object is read from the texts of its members**, the last one of those with one key. -/
theorem parse_objectText (members : List MemberText) :
    parse (objectText members) = .ok (object (insertAll (members.map MemberText.entry))) := by
  refine readAll_eq_ok.mpr ⟨[], ?_, rfl⟩
  rw [toList_objectText, anyValue, readValue_succ, skipBlank_cons (by decide)]
  exact readMembers_texts members _ true [] (by rw [List.length_cons]; omega)

/-- Blanks around a text that is read as a value inside a container make no difference. -/
theorem parseInside_blank {left text right : String} {v : Json}
    (hRead : parseInside text = .ok v) (hLeft : skipBlank left.toList = [])
    (hRight : skipBlank right.toList = []) : parseInside (left ++ text ++ right) = .ok v := by
  obtain ⟨rest, hValue, hRest⟩ := readAll_eq_ok.mp hRead
  refine readAll_eq_ok.mpr ⟨rest ++ right.toList, ?_, by rw [skipBlank_append hRest, hRight]⟩
  rw [String.toList_append, String.toList_append, List.append_assoc, anyValue,
    readValue_blank hLeft]
  refine (readsOn (stops_of_blank hRight) _).value hValue ?_ (Nat.le_refl _)
  simp only [List.length_append]
  omega

/-- What may stand inside a container may stand alone. -/
theorem parse_of_parseInside {text : String} {v : Json} (hRead : parseInside text = .ok v) :
    parse text = .ok v := by
  obtain ⟨rest, hValue, hRest⟩ := readAll_eq_ok.mp hRead
  have hMore := anyValue_more (stops_of_blank (rfl : skipBlank [] = [])) hValue
    (Nat.sub_le maxDepth 1)
  rw [List.append_nil, List.append_nil] at hMore
  exact readAll_eq_ok.mpr ⟨rest, hMore, hRest⟩

end MarketGateway.Json
