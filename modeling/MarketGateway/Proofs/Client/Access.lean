import MarketGateway.Client.Access
import MarketGateway.Proofs.Text.Utf8

/-!
# Who may connect

`Presents` is the order of precedence among the places for a token: the query, the token header, a
bearer credential. An empty token in the query and a header that cannot be read leave the choice to
the next place, but only the first header of a name is looked at. `presentedToken_eq_some_iff` says
that the token is looked for that way, and `AccessToken.sameBytes_iff` that gathering the
differences of all bytes is a test for equality: `AccessToken.authorizes_iff`.
-/

namespace MarketGateway

/-! ## Places for a token -/

/-- The first header of a name, in whatever case, has this value, and the value can be read: visible
ASCII characters, spaces and tabs. -/
structure Headers.Shows (headers : Headers) (name value : String) : Prop where
  first : ∃ before key after, headers = before ++ (key, value) :: after ∧ key.toLower = name ∧
    ∀ header ∈ before, header.1.toLower ≠ name
  readable : ∀ c ∈ value.toList, ' ' ≤ c ∧ c ≤ '~' ∨ c = '\t'

/-- The token that counts of those that a request brings. -/
inductive Presents (query : Option String) (headers : Headers) (token : String) : Prop
  | query (hQuery : query = some token) (hSome : token ≠ "")
  | header (hQuery : query = none ∨ query = some "") (hHeader : headers.Shows "x-auth-token" token)
  | bearer (hQuery : query = none ∨ query = some "")
      (hHeader : ∀ other, ¬ headers.Shows "x-auth-token" other)
      (hBearer : headers.Shows "authorization" ("Bearer " ++ token))

variable {headers : Headers} {query : Option String} {name value credential token : String}

theorem isReadable_iff :
    isReadable value = true ↔ ∀ c ∈ value.toList, ' ' ≤ c ∧ c ≤ '~' ∨ c = '\t' := by
  rw [isReadable, List.all_eq_true]
  refine forall_congr' fun c => imp_congr_right fun _ => ?_
  have hTab : c = '\t' ↔ c.toNat = 9 := Char.toNat_inj.symm
  have hSpace : ' ' ≤ c ↔ 0x20 ≤ c.toNat := Iff.rfl
  have hTilde : c ≤ '~' ↔ c.toNat ≤ 0x7e := Iff.rfl
  rw [hTab, hSpace, hTilde, Bool.or_eq_true, Bool.and_eq_true, decide_eq_true_eq,
    decide_eq_true_eq, beq_iff_eq, Nat.lt_succ_iff]

theorem Headers.text?_eq_some_iff : headers.text? name = some value ↔ headers.Shows name value := by
  have hFirst (key : String) : headers.find? (·.1.toLower == name) = some (key, value) ↔
      key.toLower = name ∧ ∃ before after, headers = before ++ (key, value) :: after ∧
        ∀ header ∈ before, header.1.toLower ≠ name := by
    simp [List.find?_eq_some_iff_append]
  have hText : headers.text? name = some value ↔
      ∃ key, headers.find? (·.1.toLower == name) = some (key, value) ∧ isReadable value = true := by
    rw [text?]
    cases headers.find? (·.1.toLower == name) with
    | none => simp
    | some header => grind
  rw [hText]
  constructor
  · rintro ⟨key, hFind, hReadable⟩
    obtain ⟨hKey, before, after, hSplit, hBefore⟩ := (hFirst key).mp hFind
    exact ⟨⟨before, key, after, hSplit, hKey, hBefore⟩, isReadable_iff.mp hReadable⟩
  · rintro ⟨⟨before, key, after, hSplit, hKey, hBefore⟩, hReadable⟩
    exact ⟨key, (hFirst key).mpr ⟨hKey, before, after, hSplit, hBefore⟩,
      isReadable_iff.mpr hReadable⟩

theorem afterStart?_eq_some_iff {start cs rest : List Char} :
    afterStart? start cs = some rest ↔ cs = start ++ rest := by
  induction start generalizing cs with
  | nil => simp [afterStart?]
  | cons p start ih =>
    cases cs with
    | nil => simp [afterStart?]
    | cons c cs =>
      rw [afterStart?]
      by_cases hSame : p = c
      · rw [if_pos hSame, ih, hSame, List.cons_append, List.cons_inj_right]
      · rw [if_neg hSame]
        exact iff_of_false (by simp) fun hEq => hSame (List.cons.inj hEq).1.symm

theorem bearer?_eq_some_iff :
    bearer? credential = some token ↔ credential = "Bearer " ++ token := by
  rw [bearer?, Option.map_eq_some_iff]
  simp only [afterStart?_eq_some_iff]
  constructor
  · rintro ⟨rest, hRest, rfl⟩
    calc credential = String.ofList credential.toList := String.ofList_toList.symm
      _ = "Bearer " ++ String.ofList rest := by
        rw [hRest, String.ofList_append, String.ofList_toList]
  · rintro rfl
    exact ⟨token.toList, String.toList_append, String.ofList_toList⟩

theorem presentedToken_eq_some_iff :
    presentedToken query headers = some token ↔ Presents query headers token := by
  have hHeaders : presentedToken.fromHeaders headers = some token ↔
      headers.Shows "x-auth-token" token ∨
        (∀ other, ¬ headers.Shows "x-auth-token" other) ∧
          headers.Shows "authorization" ("Bearer " ++ token) := by
    simp only [← Headers.text?_eq_some_iff]
    rw [presentedToken.fromHeaders]
    cases headers.text? "x-auth-token" with
    | some found => simp
    | none => simp [Option.bind_eq_some_iff, bearer?_eq_some_iff]
  by_cases hQuery : query = none ∨ query = some ""
  · have hPresented : presentedToken query headers = presentedToken.fromHeaders headers := by
      rcases hQuery with rfl | rfl
      · rfl
      · rfl
    rw [hPresented, hHeaders]
    constructor
    · rintro (hHeader | ⟨hNone, hBearer⟩)
      · exact .header hQuery hHeader
      · exact .bearer hQuery hNone hBearer
    · rintro (⟨hSome, hNe⟩ | ⟨-, hHeader⟩ | ⟨-, hNone, hBearer⟩)
      · grind
      · exact .inl hHeader
      · exact .inr ⟨hNone, hBearer⟩
  · obtain ⟨found, rfl⟩ := Option.ne_none_iff_exists'.mp fun hNone => hQuery (.inl hNone)
    have hFound : found ≠ "" := fun hEmpty => hQuery (.inr (congrArg _ hEmpty))
    rw [presentedToken, if_pos hFound]
    constructor
    · intro hSame
      exact .query hSame (Option.some.inj hSame ▸ hFound)
    · rintro (⟨hSome, -⟩ | ⟨hNone, -⟩ | ⟨hNone, -⟩)
      · exact hSome
      · exact absurd hNone hQuery
      · exact absurd hNone hQuery

/-! ## Comparing tokens -/

namespace AccessToken

/-- No byte gathers a difference exactly if there is none. -/
theorem foldl_differences_eq_zero_iff {a b : List UInt8} (hLength : a.length = b.length)
    (acc : UInt8) : (a.zip b).foldl (fun acc (x, y) => acc ||| (x ^^^ y)) acc = 0 ↔
      acc = 0 ∧ a = b := by
  induction a generalizing b acc with
  | nil => simp [List.length_eq_zero_iff.mp hLength.symm]
  | cons x a ih =>
    obtain ⟨y, b, rfl⟩ := List.exists_cons_of_length_eq_add_one hLength.symm
    have hRest : a.length = b.length := by simpa using hLength
    rw [List.zip_cons_cons, List.foldl_cons, ih hRest, UInt8.or_eq_zero_iff, UInt8.xor_eq_zero_iff,
      List.cons.injEq, and_assoc]

theorem sameBytes_iff {a b : List UInt8} : sameBytes a b = true ↔ a = b := by
  rw [sameBytes]
  by_cases hLength : a.length = b.length
  · rw [if_neg (by simpa using hLength), beq_iff_eq, foldl_differences_eq_zero_iff hLength,
      and_iff_right rfl]
  · rw [if_pos hLength]
    exact iff_of_false (by simp) fun hEq => hLength (congrArg List.length hEq)

theorem admits_iff {expected : AccessToken} : expected.admits token = true ↔
    Text.Utf8.bytes token = Text.Utf8.bytes expected.value := by
  rw [admits, sameBytes_iff, eq_comm]

/-- **A request may connect with the configured token only.** It may exactly if the token that
counts of those that it brings is there and has the bytes of the configured one. One token counts at
most, so a request that does not bring the configured one where it counts may not connect, whatever
else it brings. -/
theorem authorizes_iff (expected : AccessToken) (query : Option String) (headers : Headers) :
    (expected.authorizes query headers = true ↔ ∃ token, Presents query headers token ∧
      Text.Utf8.bytes token = Text.Utf8.bytes expected.value) ∧
    (∀ token other, Presents query headers token → Presents query headers other →
      token = other) ∧
    (¬ Presents query headers expected.value → expected.authorizes query headers = false) := by
  have hAuthorizes : expected.authorizes query headers = true ↔
      ∃ token, Presents query headers token ∧
        Text.Utf8.bytes token = Text.Utf8.bytes expected.value := by
    simp only [← presentedToken_eq_some_iff, ← admits_iff, authorizes]
    cases presentedToken query headers with
    | none => simp
    | some token => simp
  refine ⟨hAuthorizes, fun token other hToken hOther => ?_, fun hAbsent => ?_⟩
  · rw [← presentedToken_eq_some_iff] at hToken hOther
    exact Option.some.inj (hToken.symm.trans hOther)
  · refine Bool.eq_false_iff.mpr fun hTrue => hAbsent ?_
    obtain ⟨token, hToken, hBytes⟩ := hAuthorizes.mp hTrue
    have hSame : token = expected.value := by
      rw [← Text.Utf8.lossy_bytes token, hBytes, Text.Utf8.lossy_bytes]
    exact hSame ▸ hToken

/-! ## A token in the wrong place -/

def secret : AccessToken := ⟨"s3cret"⟩

/-- The token stands in the second token header and in the bearer credential, but the first token
header counts. -/
def shadowed : Headers :=
  [("Accept", "*/*"), ("X-Auth-Token", "guess"), ("x-auth-token", "s3cret"),
    ("Authorization", "Bearer s3cret")]

/-- The first token header cannot be read, so the bearer credential counts. -/
def unreadable : Headers :=
  [("x-auth-token", "gr\u00fcn"), ("x-auth-token", "guess"), ("AUTHORIZATION", "Bearer s3cret")]

theorem authorizes_iff_of_shadowed :
    ¬ Presents (some "") shadowed secret.value ∧ secret.authorizes (some "") shadowed = false ∧
      Presents (some "") unreadable secret.value ∧
      secret.authorizes (some "") unreadable = true := by
  have hShadowed : ¬ Presents (some "") shadowed secret.value := by
    rw [← presentedToken_eq_some_iff]
    decide +kernel
  have hUnreadable : Presents (some "") unreadable secret.value := by
    rw [← presentedToken_eq_some_iff]
    decide +kernel
  exact ⟨hShadowed, (authorizes_iff secret _ _).2.2 hShadowed, hUnreadable,
    (authorizes_iff secret _ _).1.mpr ⟨_, hUnreadable, rfl⟩⟩

end AccessToken

end MarketGateway
