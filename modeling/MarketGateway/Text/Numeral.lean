/-!
# Integer literals

`natural? limit` reads an unsigned literal as a program argument or a setting gives it: an optional
plus sign and decimal digits, with a value below the limit. `natural` and `integer` write values
back in decimal.
-/

namespace MarketGateway.Text

/-- One more than the largest value of an unsigned word of the given width. -/
def wordLimit (bits : Nat) : Nat := Nat.pow 2 bits

/-- The value of a decimal digit. -/
def digitValue? (c : Char) : Option Nat :=
  if '0' ≤ c ∧ c ≤ '9' then some (c.toNat - '0'.toNat) else none

/-- The value of a run of decimal digits, going on from `acc`. -/
def digitsValue? (acc : Nat) : List Char → Option Nat
  | [] => some acc
  | c :: rest => do digitsValue? (acc * 10 + (← digitValue? c)) rest

/-- The value of an unsigned literal: an optional plus sign and at least one digit. -/
def unsigned? : List Char → Option Nat
  | [] => none
  | '+' :: [] => none
  | '+' :: rest => digitsValue? 0 rest
  | cs => digitsValue? 0 cs

/-- Reads an unsigned literal whose value lies below `limit`. -/
def natural? (limit : Nat) (s : String) : Option Nat :=
  match unsigned? s.toList with
  | some n => if n < limit then some n else none
  | none => none

/-- Decimal digits of a natural number. -/
def natural (n : Nat) : String := String.ofList (Nat.toDigits 10 n)

/-- Decimal digits of an integer, with a minus sign in front of a negative one. -/
def integer (n : Int) : String :=
  if n < 0 then String.ofList ('-' :: Nat.toDigits 10 n.natAbs) else natural n.natAbs

/-- How a number is written in decimal digits; zeros may stand in front. -/
structure Digits (n : Nat) (cs : List Char) : Prop where
  some : cs ≠ []
  digit : ∀ c ∈ cs, c.isDigit = true
  value : Nat.ofDigitChars 10 cs 0 = n

/-- How an unsigned literal is written: digits, with or without a plus sign in front. -/
def Numeral (n : Nat) (cs : List Char) : Prop := ∃ ds, Digits n ds ∧ (cs = ds ∨ cs = '+' :: ds)

theorem isDigit_iff {c : Char} : c.isDigit = true ↔ '0' ≤ c ∧ c ≤ '9' := by
  simp only [Char.isDigit, Bool.and_eq_true, decide_eq_true_eq]
  rfl

theorem digitValue?_eq_some_iff {c : Char} {n : Nat} :
    digitValue? c = some n ↔ c.isDigit = true ∧ c.toNat - '0'.toNat = n := by
  rw [digitValue?, Option.ite_none_right_eq_some, isDigit_iff, Option.some.injEq]

/-- Digits are read as the number that they stand for. -/
theorem digitsValue?_eq_some_iff {cs : List Char} {acc n : Nat} :
    digitsValue? acc cs = some n ↔
      (∀ c ∈ cs, c.isDigit = true) ∧ Nat.ofDigitChars 10 cs acc = n := by
  induction cs generalizing acc with
  | nil => simp [digitsValue?]
  | cons c rest ih =>
    rw [List.forall_mem_cons, Nat.ofDigitChars_cons, Nat.mul_comm 10 acc]
    constructor
    · intro hRead
      obtain ⟨d, hDigit, hRest⟩ := Option.bind_eq_some_iff.mp hRead
      obtain ⟨hFirst, rfl⟩ := digitValue?_eq_some_iff.mp hDigit
      obtain ⟨hDigits, hValue⟩ := ih.mp hRest
      exact ⟨⟨hFirst, hDigits⟩, hValue⟩
    · rintro ⟨⟨hFirst, hDigits⟩, hValue⟩
      refine Option.bind_eq_some_iff.mpr ⟨_, digitValue?_eq_some_iff.mpr ⟨hFirst, rfl⟩, ?_⟩
      exact ih.mpr ⟨hDigits, hValue⟩

theorem unsigned?_eq_some_iff {cs : List Char} {n : Nat} :
    unsigned? cs = some n ↔ Numeral n cs := by
  have hPlus {ds : List Char} : ¬ Digits n ('+' :: ds) :=
    fun hDigits => absurd (hDigits.digit '+' List.mem_cons_self) (by decide)
  unfold unsigned?
  split
  · refine iff_of_false (by simp) ?_
    rintro ⟨ds, hDigits, rfl | hEq⟩
    · exact hDigits.some rfl
    · cases hEq
  · refine iff_of_false (by simp) ?_
    rintro ⟨ds, hDigits, rfl | hEq⟩
    · exact hPlus hDigits
    · cases hEq
      exact hDigits.some rfl
  · next rest hSome =>
    rw [digitsValue?_eq_some_iff]
    constructor
    · rintro ⟨hDigits, hValue⟩
      exact ⟨rest, ⟨by simpa using hSome, hDigits, hValue⟩, .inr rfl⟩
    · rintro ⟨ds, hDigits, rfl | hEq⟩
      · exact absurd hDigits hPlus
      · cases hEq
        exact ⟨hDigits.digit, hDigits.value⟩
  · next hSome _ hPlain =>
    rw [digitsValue?_eq_some_iff]
    constructor
    · rintro ⟨hDigits, hValue⟩
      exact ⟨cs, ⟨by simpa using hSome, hDigits, hValue⟩, .inl rfl⟩
    · rintro ⟨ds, hDigits, rfl | hEq⟩
      · exact ⟨hDigits.digit, hDigits.value⟩
      · exact absurd hEq (hPlain ds)

theorem natural?_eq_some_iff {limit n : Nat} {s : String} :
    natural? limit s = some n ↔ Numeral n s.toList ∧ n < limit := by
  rw [← unsigned?_eq_some_iff, natural?]
  cases unsigned? s.toList with
  | none => simp
  | some m => grind

/-- A number is read back from its decimal digits. -/
theorem numeral_natural (n : Nat) : Numeral n (natural n).toList := by
  refine ⟨_, ⟨?_, ?_, Nat.ofDigitChars_ten_toDigits⟩, .inl String.toList_ofList⟩
  · exact Nat.toDigits_ne_nil
  · exact fun c hc => Nat.isDigit_of_mem_toDigits (by decide) (by decide) hc

end MarketGateway.Text
