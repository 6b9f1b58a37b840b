import MarketGateway.Json.Parser
import MarketGateway.Proofs.Json.Scalars

/-!
# Reading a longer text

What a reader makes of a text it makes of every longer one, and leaves the rest and what was added,
if what was added may follow a value (`Stops`): a number must not go on with it. So a value that is
read from a text of its own is read likewise where it stands inside another one
(`anyValue_more`).
-/

namespace MarketGateway.Json

/-- What may follow a value in a text: nothing, a blank, a comma or a closing bracket. -/
def Stops (more : List Char) : Prop :=
  ∀ c ∈ more.head?, isBlank c = true ∨ c = ',' ∨ c = ']' ∨ c = '\x7d'

/-- What may follow a value goes on with none of the characters of a number. -/
theorem Stops.plain {c : Char} {more : List Char} (hStops : Stops (c :: more)) :
    digit? c = none ∧ c ≠ '.' ∧ isExponentMark c = false := by
  have hStop : c = ' ' ∨ c = '\n' ∨ c = '\t' ∨ c = '\r' ∨ c = ',' ∨ c = ']' ∨ c = '\x7d' := by
    simpa [isBlank, or_assoc] using hStops c rfl
  rcases hStop with rfl | rfl | rfl | rfl | rfl | rfl | rfl <;> decide

theorem Stops.startsWithDigit {more : List Char} (hStops : Stops more) :
    startsWithDigit more = false := by
  cases more with
  | nil => rfl
  | cons c more => simp [Json.startsWithDigit, hStops.plain.1]

variable {more : List Char}

/-! ## Words and strings -/

theorem expectWord_more {word cs rest : List Char} (hRead : expectWord word cs = .ok rest)
    (more : List Char) : expectWord word (cs ++ more) = .ok (rest ++ more) := by
  induction word generalizing cs with
  | nil =>
    cases hRead
    rfl
  | cons w word ih =>
    cases cs with
    | nil => cases hRead
    | cons c cs =>
      rw [List.cons_append]
      rw [expectWord] at hRead ⊢
      split at hRead
      · next hSame =>
        rw [if_pos hSame]
        exact ih hRead
      · cases hRead

/-- A string ends with its closing quote, whatever follows. -/
theorem readString_more {state : StringState} {acc cs rest : List Char} {s : String}
    (hRead : readString state acc cs = .ok (s, rest)) (more : List Char) :
    readString state acc (cs ++ more) = .ok (s, rest ++ more) := by
  fun_induction readString state acc cs <;> grind [readString]

theorem stringRest_more {cs rest : List Char} {s : String} (hRead : stringRest cs = .ok (s, rest))
    (more : List Char) : stringRest (cs ++ more) = .ok (s, rest ++ more) :=
  readString_more hRead more

/-! ## Numbers -/

theorem startsWithDigit_more (hStops : Stops more) (cs : List Char) :
    startsWithDigit (cs ++ more) = startsWithDigit cs := by
  cases cs with
  | nil => exact hStops.startsWithDigit
  | cons c cs => rfl

theorem skipDigits_more (hStops : Stops more) (cs : List Char) :
    skipDigits (cs ++ more) = skipDigits cs ++ more := by
  induction cs with
  | nil =>
    cases more with
    | nil => rfl
    | cons c more => simp [skipDigits, hStops.plain.1]
  | cons c cs ih =>
    rw [List.cons_append, skipDigits, skipDigits, ih]
    split <;> rfl

theorem readDigits_more (hStops : Stops more) (significand count : Nat) (cs : List Char) :
    readDigits significand count (cs ++ more) =
      ((readDigits significand count cs).1, (readDigits significand count cs).2.1,
        (readDigits significand count cs).2.2 ++ more) := by
  induction cs generalizing significand count with
  | nil =>
    cases more with
    | nil => rfl
    | cons c more => simp [readDigits, hStops.plain.1]
  | cons c cs ih =>
    rw [List.cons_append, readDigits, readDigits]
    split
    · split
      · exact ih _ _
      · rfl
    · rfl

theorem exponentDigits_more (hStops : Stops more) (value : Nat) (cs : List Char) :
    exponentDigits value (cs ++ more) =
      ((exponentDigits value cs).1, (exponentDigits value cs).2 ++ more) := by
  induction cs generalizing value with
  | nil =>
    cases more with
    | nil => rfl
    | cons c more => simp [exponentDigits, hStops.plain.1]
  | cons c cs ih =>
    rw [List.cons_append, exponentDigits, exponentDigits]
    split
    · split
      · exact ih _
      · rw [skipDigits_more hStops]
    · rfl

/-- A reader that got on was not stopped. -/
theorem not_stopped {α : Type} {p : Prop} [Decidable p] {fault : Fault} {outcome : Except Fault α}
    {a : α} (hRead : (if p then .error fault else outcome) = .ok a) : ¬ p ∧ outcome = .ok a := by
  split at hRead
  · cases hRead
  · next hGoes => exact ⟨hGoes, hRead⟩

theorem map_eq_ok {α β : Type} {f : α → β} {outcome : Except Fault α} {b : β} :
    outcome.map f = .ok b ↔ ∃ a, outcome = .ok a ∧ f a = b := by
  cases outcome <;> simp [Except.map]

/-- What is returned along with a rest does not depend on it. -/
theorem map_rest_more {α : Type} {outcome : Except Fault α} {a : α} {left rest : List Char}
    (hRead : outcome.map (·, left) = .ok (a, rest)) (more : List Char) :
    outcome.map (·, left ++ more) = .ok (a, rest ++ more) := by
  obtain ⟨b, hFirst, hSame⟩ := map_eq_ok.mp hRead
  obtain ⟨rfl, rfl⟩ := Prod.mk.inj hSame
  exact map_eq_ok.mpr ⟨b, hFirst, rfl⟩

/-- The reader makes of the text with more behind it what it makes of the text. -/
def Goes {α : Type} (reader : List Char → Except Fault (α × List Char)) (cs more : List Char) :
    Prop :=
  ∀ a rest, reader cs = .ok (a, rest) → reader (cs ++ more) = .ok (a, rest ++ more)

theorem Goes.map {α β : Type} {reader : List Char → Except Fault (α × List Char)} {cs : List Char}
    (hGoes : Goes reader cs more) (f : α → β) :
    Goes (fun cs => (reader cs).map fun (a, rest) => (f a, rest)) cs more := by
  intro b rest hRead
  obtain ⟨⟨a, left⟩, hFirst, hSame⟩ := map_eq_ok.mp hRead
  obtain ⟨rfl, rfl⟩ := Prod.mk.inj hSame
  exact map_eq_ok.mpr ⟨_, hGoes a left hFirst, rfl⟩

/-- Reads the digits behind the sign of an exponent. -/
def unsignedExponent (negative down : Bool) (significand : Nat) (start : Int) (cs : List Char) :
    Except Fault (Binary64 × List Char) :=
  match cs with
  | [] => .error .truncated
  | c :: _ =>
    if (digit? c).isNone then .error .malformed
    else match exponentDigits 0 cs with
      | (some e, rest) =>
        let total := clampExponent (if down then start - e else start + e)
        (scaledReal negative significand total).map (·, rest)
      | (none, rest) =>
        if significand ≠ 0 ∧ down = false then .error .malformed
        else .ok (if negative then Binary64.zero.neg else Binary64.zero, rest)

theorem exponentPart_cons (negative : Bool) (significand : Nat) (start : Int) (c : Char)
    (cs : List Char) :
    exponentPart negative significand start (c :: cs) =
      if c = '+' then unsignedExponent negative false significand start cs
      else if c = '-' then unsignedExponent negative true significand start cs
      else unsignedExponent negative false significand start (c :: cs) := by
  by_cases hPlus : c = '+'
  · subst hPlus
    rfl
  by_cases hMinus : c = '-'
  · subst hMinus
    rfl
  · rw [if_neg hPlus, if_neg hMinus]
    unfold exponentPart
    split
    next hSign =>
    split at hSign
    · next hEq => exact absurd (List.cons.inj hEq).1 hPlus
    · next hEq => exact absurd (List.cons.inj hEq).1 hMinus
    · obtain ⟨rfl, rfl⟩ := Prod.mk.inj hSign
      rfl

theorem unsignedExponent_more (hStops : Stops more) (negative down : Bool) (significand : Nat)
    (start : Int) (cs : List Char) :
    Goes (unsignedExponent negative down significand start) cs more := by
  intro x rest hRead
  cases cs with
  | nil => cases hRead
  | cons c cs =>
    have hMore := exponentDigits_more hStops 0 (c :: cs)
    rw [List.cons_append] at hMore ⊢
    rw [unsignedExponent] at hRead ⊢
    obtain ⟨hDigit, hRead⟩ := not_stopped hRead
    rw [if_neg hDigit, hMore]
    generalize exponentDigits 0 (c :: cs) = digits at hRead ⊢
    obtain ⟨value, left⟩ := digits
    cases value with
    | some e => exact map_rest_more hRead more
    | none =>
      obtain ⟨hSmall, hZero⟩ := not_stopped hRead
      cases hZero
      exact if_neg hSmall

theorem exponentPart_more (hStops : Stops more) (negative : Bool) (significand : Nat) (start : Int)
    (cs : List Char) : Goes (exponentPart negative significand start) cs more := by
  intro x rest hRead
  cases cs with
  | nil => cases hRead
  | cons c cs =>
    rw [List.cons_append]
    rw [exponentPart_cons] at hRead ⊢
    split at hRead
    · next hPlus =>
      rw [if_pos hPlus]
      exact unsignedExponent_more hStops _ _ _ _ _ _ _ hRead
    · next hPlus =>
      rw [if_neg hPlus]
      split at hRead
      · next hMinus =>
        rw [if_pos hMinus]
        exact unsignedExponent_more hStops _ _ _ _ _ _ _ hRead
      · next hMinus =>
        rw [if_neg hMinus]
        exact unsignedExponent_more hStops _ _ _ _ (c :: cs) _ _ hRead

theorem realEnd_more (hStops : Stops more) (negative : Bool) (significand : Nat) (exponent : Int)
    (cs : List Char) : Goes (realEnd negative significand exponent) cs more := by
  intro x rest hRead
  cases cs with
  | nil =>
    have hEnd := map_rest_more hRead more
    cases more with
    | nil => exact hEnd
    | cons c more =>
      rw [List.nil_append, realEnd, if_neg (by simp [hStops.plain.2.2])]
      exact hEnd
  | cons c cs =>
    rw [List.cons_append]
    rw [realEnd] at hRead ⊢
    by_cases hMark : isExponentMark c = true
    · rw [if_pos hMark] at hRead ⊢
      exact exponentPart_more hStops _ _ _ _ _ _ hRead
    · rw [if_neg hMark] at hRead ⊢
      exact map_rest_more hRead more

theorem fractionPart_more (hStops : Stops more) (negative : Bool) (significand : Nat) (start : Int)
    (cs : List Char) : Goes (fractionPart negative significand start) cs more := by
  intro x rest hRead
  unfold fractionPart at hRead ⊢
  rw [readDigits_more hStops]
  generalize readDigits significand 0 cs = digits at hRead ⊢
  obtain ⟨value, count, left⟩ := digits
  dsimp only at hRead ⊢
  rw [startsWithDigit_more hStops, skipDigits_more hStops]
  split at hRead
  · next hDigit =>
    rw [if_pos hDigit]
    exact realEnd_more hStops _ _ _ _ _ _ hRead
  · next hDigit =>
    obtain ⟨hCount, hRead⟩ := not_stopped hRead
    rw [if_neg hDigit, if_neg hCount]
    exact realEnd_more hStops _ _ _ _ _ _ hRead

/-- No point comes with what follows a value. -/
theorem point_more (hStops : Stops more) {cs : List Char} (hNone : ∀ after, cs ≠ '.' :: after)
    (after : List Char) : cs ++ more ≠ '.' :: after := by
  intro hEq
  cases cs with
  | nil =>
    subst hEq
    exact hStops.plain.2.1 rfl
  | cons c cs =>
    obtain ⟨rfl, -⟩ := List.cons.inj hEq
    exact hNone cs rfl

theorem longWhole_more (hStops : Stops more) (negative : Bool) (significand : Nat)
    (cs : List Char) : Goes (longWhole negative significand) cs more := by
  intro x rest hRead
  have hExtra : ((cs ++ more).length : Int) - (skipDigits cs ++ more).length =
      (cs.length : Int) - (skipDigits cs).length := by
    simp only [List.length_append]
    omega
  unfold longWhole at hRead ⊢
  rw [skipDigits_more hStops]
  dsimp only at hRead ⊢
  rw [hExtra]
  generalize (cs.length : Int) - (skipDigits cs).length = extra at hRead ⊢
  generalize skipDigits cs = left at hRead ⊢
  split at hRead
  · next after => exact fractionPart_more hStops _ _ _ _ _ _ hRead
  · next hNone =>
    split
    · next after hEq => exact absurd hEq (point_more hStops hNone after)
    · exact realEnd_more hStops _ _ _ _ _ _ hRead

theorem readNumber_more (hStops : Stops more) (negative : Bool) (cs : List Char) :
    Goes (readNumber negative) cs more := by
  intro x rest hRead
  cases cs with
  | nil => cases hRead
  | cons c cs =>
    have hMore := readDigits_more hStops 0 0 (c :: cs)
    rw [List.cons_append] at hMore ⊢
    rw [readNumber] at hRead ⊢
    rw [startsWithDigit_more hStops, hMore]
    generalize readDigits 0 0 (c :: cs) = digits at hRead ⊢
    obtain ⟨value, count, left⟩ := digits
    replace hRead := (not_stopped hRead).imp_right not_stopped
    obtain ⟨hDigit, hZero, hRead⟩ := hRead
    rw [if_neg hDigit, if_neg hZero]
    dsimp only at hRead ⊢
    rw [startsWithDigit_more hStops]
    split at hRead
    · next hLong =>
      rw [if_pos hLong]
      exact (longWhole_more hStops negative value left).map Number.real _ _ hRead
    next hShort =>
    rw [if_neg hShort]
    split at hRead
    · next after =>
      exact (fractionPart_more hStops negative value 0 after).map Number.real _ _ hRead
    · next d after hPoint =>
      split at hRead
      · next hMark =>
        simp only [List.cons_append, hMark, if_true]
        exact (exponentPart_more hStops negative value 0 after).map Number.real _ _ hRead
      · next hMark =>
        cases hRead
        simp [hMark]
    · cases hRead
      cases more with
      | nil => rfl
      | cons d more =>
        obtain ⟨-, hPoint, hMark⟩ := hStops.plain
        rw [List.nil_append]
        split <;> simp_all

/-! ## Values -/

theorem skipBlank_more {cs : List Char} (hLeft : skipBlank cs ≠ []) (more : List Char) :
    skipBlank (cs ++ more) = skipBlank cs ++ more := by
  have hSome : (cs.dropWhile isBlank).isEmpty = false := by
    simpa [skipBlank, List.isEmpty_eq_false_iff] using hLeft
  rw [skipBlank, List.dropWhile_append, hSome]
  rfl

theorem skipBlank_cons_more {c : Char} {cs rest : List Char} (hSkip : skipBlank cs = c :: rest)
    (more : List Char) : skipBlank (cs ++ more) = c :: (rest ++ more) := by
  rw [skipBlank_more (by simp [hSkip]), hSkip, List.cons_append]

/-- Reads a value that is no container, after its first character. -/
def readScalar (c : Char) (rest : List Char) : Except Fault (Json × List Char) :=
  if c = '"' then (stringRest rest).map fun (s, rest) => (string s, rest)
  else if c = 'n' then (expectWord ['u', 'l', 'l'] rest).map (null, ·)
  else if c = 't' then (expectWord ['r', 'u', 'e'] rest).map (bool true, ·)
  else if c = 'f' then (expectWord ['a', 'l', 's', 'e'] rest).map (bool false, ·)
  else if c = '-' then (readNumber true rest).map fun (n, rest) => (number n, rest)
  else if (digit? c).isSome then
    (readNumber false (c :: rest)).map fun (n, rest) => (number n, rest)
  else .error .malformed

theorem readValue_succ (fuel depth : Nat) (cs : List Char) :
    readValue (fuel + 1) depth cs =
      match skipBlank cs with
      | [] => .error .truncated
      | c :: rest =>
        if c = '[' then
          if depth = 0 then .error .malformed else readItems fuel (depth - 1) true [] rest
        else if c = '\x7b' then
          if depth = 0 then .error .malformed else readMembers fuel (depth - 1) true [] rest
        else readScalar c rest := by
  rw [readValue]
  rfl

theorem Goes.ite {α : Type} {p : Prop} [Decidable p]
    {reader other : List Char → Except Fault (α × List Char)} {cs : List Char}
    (hReader : Goes reader cs more) (hOther : Goes other cs more) :
    Goes (fun cs => if p then reader cs else other cs) cs more := by
  by_cases hp : p
  · simpa only [hp, if_true] using hReader
  · simpa only [hp, if_false] using hOther

theorem goes_word (word : List Char) (v : Json) (cs more : List Char) :
    Goes (fun cs => (expectWord word cs).map (v, ·)) cs more := by
  intro b rest hRead
  obtain ⟨left, hWord, hSame⟩ := map_eq_ok.mp hRead
  obtain ⟨rfl, rfl⟩ := Prod.mk.inj hSame
  exact map_eq_ok.mpr ⟨_, expectWord_more hWord more, rfl⟩

theorem readScalar_more (hStops : Stops more) (c : Char) (cs : List Char) :
    Goes (readScalar c) cs more := by
  have hString : Goes stringRest cs more := fun _ _ hRead => stringRest_more hRead more
  have hDigits : Goes (fun cs => readNumber false (c :: cs)) cs more :=
    fun _ _ hRead => readNumber_more hStops false (c :: cs) _ _ hRead
  have hFault : Goes (fun _ => .error .malformed : List Char → Except Fault (Json × List Char)) cs
      more := by
    intro _ _ hRead
    cases hRead
  exact .ite (hString.map _) (.ite (goes_word _ _ _ _) (.ite (goes_word _ _ _ _)
    (.ite (goes_word _ _ _ _) (.ite ((readNumber_more hStops true cs).map _)
      (.ite (hDigits.map _) hFault)))))

/-- A value begins with a character that is no blank. -/
theorem skipBlank_of_readValue {fuel depth : Nat} {cs rest : List Char} {v : Json}
    (hRead : readValue fuel depth cs = .ok (v, rest)) : skipBlank cs ≠ [] := by
  intro hNone
  cases fuel with
  | zero => cases hRead
  | succ fuel =>
    rw [readValue_succ, hNone] at hRead
    cases hRead

/-- What the readers make of a longer text with as much fuel and depth or more. -/
structure ReadsOn (more : List Char) (fuel : Nat) : Prop where
  value : ∀ {depth cs v rest fuel' depth'}, readValue fuel depth cs = .ok (v, rest) →
    fuel ≤ fuel' → depth ≤ depth' → readValue fuel' depth' (cs ++ more) = .ok (v, rest ++ more)
  items : ∀ {depth first acc cs v rest fuel' depth'},
    readItems fuel depth first acc cs = .ok (v, rest) → fuel ≤ fuel' → depth ≤ depth' →
      readItems fuel' depth' first acc (cs ++ more) = .ok (v, rest ++ more)
  members : ∀ {depth first acc cs v rest fuel' depth'},
    readMembers fuel depth first acc cs = .ok (v, rest) → fuel ≤ fuel' → depth ≤ depth' →
      readMembers fuel' depth' first acc (cs ++ more) = .ok (v, rest ++ more)

variable {fuel depth : Nat}

theorem ReadsOn.value_succ (hStops : Stops more) (hOn : ReadsOn more fuel) {cs rest : List Char}
    {v : Json} {fuel' depth' : Nat} (hRead : readValue (fuel + 1) depth cs = .ok (v, rest))
    (hFuel : fuel ≤ fuel') (hDepth : depth ≤ depth') :
    readValue (fuel' + 1) depth' (cs ++ more) = .ok (v, rest ++ more) := by
  rw [readValue_succ] at hRead ⊢
  cases hSkip : skipBlank cs with
  | nil =>
    rw [hSkip] at hRead
    cases hRead
  | cons c cs =>
    rw [skipBlank_cons_more hSkip]
    rw [hSkip] at hRead
    dsimp only at hRead ⊢
    split at hRead
    · next hArray =>
      obtain ⟨hRoom, hRead⟩ := not_stopped hRead
      rw [if_pos hArray, if_neg (by omega)]
      exact hOn.items hRead hFuel (by omega)
    next hArray =>
    rw [if_neg hArray]
    split at hRead
    · next hObject =>
      obtain ⟨hRoom, hRead⟩ := not_stopped hRead
      rw [if_pos hObject, if_neg (by omega)]
      exact hOn.members hRead hFuel (by omega)
    next hObject =>
    rw [if_neg hObject]
    exact readScalar_more hStops c cs v rest hRead

/-- Where the next item or member begins, after the comma unless it is the first one. -/
theorem begin_more {first : Bool} {c : Char} {cs inner : List Char}
    (hInner : (if first = true then c :: cs else skipBlank cs) = inner) (hSome : inner ≠ [])
    (more : List Char) :
    (if first = true then c :: (cs ++ more) else skipBlank (cs ++ more)) = inner ++ more := by
  subst hInner
  cases first with
  | true => rfl
  | false => exact skipBlank_more hSome more

theorem ReadsOn.items_succ (hOn : ReadsOn more fuel) {first : Bool} {acc : List Json}
    {cs rest : List Char} {v : Json} {fuel' depth' : Nat}
    (hRead : readItems (fuel + 1) depth first acc cs = .ok (v, rest))
    (hFuel : fuel ≤ fuel') (hDepth : depth ≤ depth') :
    readItems (fuel' + 1) depth' first acc (cs ++ more) = .ok (v, rest ++ more) := by
  rw [readItems] at hRead ⊢
  cases hSkip : skipBlank cs with
  | nil =>
    rw [hSkip] at hRead
    cases hRead
  | cons c cs =>
    rw [skipBlank_cons_more hSkip]
    rw [hSkip] at hRead
    dsimp only at hRead ⊢
    split at hRead
    · next hEnd =>
      rw [if_pos hEnd]
      cases hRead
      rfl
    next hEnd =>
    obtain ⟨hComma, hRead⟩ := not_stopped hRead
    rw [if_neg hEnd, if_neg hComma]
    generalize hInner : (if first = true then c :: cs else skipBlank cs) = inner at hRead
    obtain ⟨hItem, hRead⟩ := not_stopped hRead
    split at hRead
    · next item left hValue =>
      have hSome : inner ≠ [] := by
        rintro rfl
        exact skipBlank_of_readValue hValue rfl
      have hHead : (inner ++ more).head? = inner.head? := by
        cases inner with
        | nil => exact absurd rfl hSome
        | cons => rfl
      rw [begin_more hInner hSome, hHead, if_neg hItem, hOn.value hValue hFuel hDepth]
      exact hOn.items hRead hFuel hDepth
    · cases hRead

theorem ReadsOn.members_succ (hOn : ReadsOn more fuel) {first : Bool}
    {acc : List (String × Json)} {cs rest : List Char} {v : Json} {fuel' depth' : Nat}
    (hRead : readMembers (fuel + 1) depth first acc cs = .ok (v, rest))
    (hFuel : fuel ≤ fuel') (hDepth : depth ≤ depth') :
    readMembers (fuel' + 1) depth' first acc (cs ++ more) = .ok (v, rest ++ more) := by
  rw [readMembers] at hRead ⊢
  cases hSkip : skipBlank cs with
  | nil =>
    rw [hSkip] at hRead
    cases hRead
  | cons c cs =>
    rw [skipBlank_cons_more hSkip]
    rw [hSkip] at hRead
    dsimp only at hRead ⊢
    split at hRead
    · next hEnd =>
      rw [if_pos hEnd]
      cases hRead
      rfl
    next hEnd =>
    obtain ⟨hComma, hRead⟩ := not_stopped hRead
    rw [if_neg hEnd, if_neg hComma]
    generalize hInner : (if first = true then c :: cs else skipBlank cs) = inner at hRead
    cases inner with
    | nil => cases hRead
    | cons q inner =>
      rw [begin_more hInner (by simp), List.cons_append]
      dsimp only at hRead ⊢
      obtain ⟨hQuote, hRead⟩ := not_stopped hRead
      rw [if_neg hQuote]
      split at hRead
      · cases hRead
      · next key left hKey =>
        rw [stringRest_more hKey]
        dsimp only
        cases hColon : skipBlank left with
        | nil =>
          rw [hColon] at hRead
          cases hRead
        | cons colon left =>
          rw [skipBlank_cons_more hColon]
          rw [hColon] at hRead
          dsimp only at hRead ⊢
          obtain ⟨hIs, hRead⟩ := not_stopped hRead
          rw [if_neg hIs]
          split at hRead
          · next value after hValue =>
            rw [hOn.value hValue hFuel hDepth]
            exact hOn.members hRead hFuel hDepth
          · cases hRead

/-- By induction on the fuel, for values and the inside of containers at once. -/
theorem readsOn (hStops : Stops more) (fuel : Nat) : ReadsOn more fuel := by
  induction fuel with
  | zero =>
    constructor
    · intro _ _ _ _ _ _ hRead
      cases hRead
    · intro _ _ _ _ _ _ _ _ hRead
      cases hRead
    · intro _ _ _ _ _ _ _ _ hRead
      cases hRead
  | succ fuel ih =>
    constructor
    · intro _ _ _ _ fuel' _ hRead hFuel hDepth
      obtain ⟨fuel', rfl⟩ := Nat.exists_eq_add_one_of_ne_zero (by omega : fuel' ≠ 0)
      exact ih.value_succ hStops hRead (by omega) hDepth
    · intro _ _ _ _ _ _ fuel' _ hRead hFuel hDepth
      obtain ⟨fuel', rfl⟩ := Nat.exists_eq_add_one_of_ne_zero (by omega : fuel' ≠ 0)
      exact ih.items_succ hRead (by omega) hDepth
    · intro _ _ _ _ _ _ fuel' _ hRead hFuel hDepth
      obtain ⟨fuel', rfl⟩ := Nat.exists_eq_add_one_of_ne_zero (by omega : fuel' ≠ 0)
      exact ih.members_succ hRead (by omega) hDepth

/-- **A value that is read from a text is read from every longer one**, with as many containers
allowed or more, if it may end where the text ended. -/
theorem anyValue_more (hStops : Stops more) {depth' : Nat} {cs rest : List Char} {v : Json}
    (hRead : anyValue depth cs = .ok (v, rest)) (hDepth : depth ≤ depth') :
    anyValue depth' (cs ++ more) = .ok (v, rest ++ more) := by
  refine (readsOn hStops _).value hRead ?_ hDepth
  rw [List.length_append]
  omega

end MarketGateway.Json
