/-!
# White space

`isBlank` is the Unicode property White_Space, and `trim` removes it from both ends of a text.
`trimChars_eq_iff` says which texts are trimmed to a text without blanks.
-/

namespace MarketGateway.Text

/-- Whether a character has the Unicode property White_Space. -/
def isBlank (c : Char) : Bool :=
  let code := c.toNat
  (9 ≤ code && code ≤ 13) || code == 0x20 || code == 0x85 || code == 0xa0 || code == 0x1680 ||
    (0x2000 ≤ code && code ≤ 0x200a) || code == 0x2028 || code == 0x2029 || code == 0x202f ||
    code == 0x205f || code == 0x3000

/-- The characters left when blanks are removed from both ends. -/
def trimChars (cs : List Char) : List Char :=
  ((cs.dropWhile isBlank).reverse.dropWhile isBlank).reverse

/-- The text without the blanks at both ends. -/
def trim (s : String) : String := String.ofList (trimChars s.toList)

theorem trimChars_of_not_blank {cs : List Char} (h : ∀ c ∈ cs, isBlank c = false) :
    trimChars cs = cs := by
  have drop_eq : ∀ l : List Char, (∀ c ∈ l, isBlank c = false) → l.dropWhile isBlank = l := by
    intro l hl
    cases l with
    | nil => rfl
    | cons c r => simp [hl c (by simp)]
  rw [trimChars, drop_eq cs h, drop_eq cs.reverse (by simpa using h), List.reverse_reverse]

variable {before after cs core : List Char}

theorem trimChars_pad (hBefore : ∀ c ∈ before, isBlank c = true)
    (hAfter : ∀ c ∈ after, isBlank c = true) (cs : List Char) :
    trimChars (before ++ cs ++ after) = trimChars cs := by
  have hReversed : ∀ c ∈ after.reverse, isBlank c = true := by simpa using hAfter
  have hNothing : after.dropWhile isBlank = [] := by
    rw [← List.append_nil after, List.dropWhile_append_of_pos hAfter, List.dropWhile_nil]
  rw [trimChars, trimChars, List.append_assoc, List.dropWhile_append_of_pos hBefore,
    List.dropWhile_append]
  split
  · next hNone => rw [List.isEmpty_iff.mp hNone, hNothing]
  · rw [List.reverse_append, List.dropWhile_append_of_pos hReversed]

/-- What trimming leaves stands between blanks. -/
theorem exists_pad (cs : List Char) : ∃ before after, cs = before ++ trimChars cs ++ after ∧
    (∀ c ∈ before, isBlank c = true) ∧ ∀ c ∈ after, isBlank c = true := by
  have hSplit (l : List Char) : l.takeWhile isBlank ++ l.dropWhile isBlank = l :=
    List.takeWhile_append_dropWhile
  have hBlank (l : List Char) : ∀ c ∈ l.takeWhile isBlank, isBlank c = true :=
    List.all_eq_true.mp List.all_takeWhile
  refine ⟨cs.takeWhile isBlank, ((cs.dropWhile isBlank).reverse.takeWhile isBlank).reverse, ?_,
    hBlank cs, fun c hc => hBlank _ c (List.mem_reverse.mp hc)⟩
  rw [trimChars, List.append_assoc, ← List.reverse_append, hSplit, List.reverse_reverse, hSplit]

/-- The texts that are trimmed to a text without blanks have it between blanks. -/
theorem trimChars_eq_iff (hCore : ∀ c ∈ core, isBlank c = false) :
    trimChars cs = core ↔ ∃ before after, cs = before ++ core ++ after ∧
      (∀ c ∈ before, isBlank c = true) ∧ ∀ c ∈ after, isBlank c = true := by
  constructor
  · rintro rfl
    exact exists_pad cs
  · rintro ⟨before, after, rfl, hBefore, hAfter⟩
    rw [trimChars_pad hBefore hAfter, trimChars_of_not_blank hCore]

end MarketGateway.Text
