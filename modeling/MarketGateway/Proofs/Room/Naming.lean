import MarketGateway.Proofs.Text.Utf8
import MarketGateway.Room.Key

/-!
# Names of rooms

`RoomKey.Names` is the grammar of the texts that name a room: a symbol between blanks, in capitals
or small letters, and for an order book a colon and the depth behind it. Exactly these texts are
read (`parse_eq_ok_iff`). The name that is written for a key is read back as that key
(`Proper.parse_toText`), so no two rooms share a name; texts that differ in the case and the blanks
of the symbol only name the same room (`Alike.parse_iff`).
-/

namespace MarketGateway

open Text

/-! ## Letters and digits -/

theorem Text.isUpper_iff {c : Char} : c.isUpper = true ↔ 'A' ≤ c ∧ c ≤ 'Z' :=
  decide_eq_true_iff

theorem Text.isLower_iff {c : Char} : c.isLower = true ↔ 'a' ≤ c ∧ c ≤ 'z' := by
  show (decide ('a' ≤ c) && decide (c ≤ 'z')) = true ↔ _
  rw [Bool.and_eq_true, decide_eq_true_eq, decide_eq_true_eq]

theorem Text.isAlphanum_eq (c : Char) : c.isAlphanum = (c.isUpper || c.isLower || c.isDigit) :=
  rfl

theorem Text.isAlphanum_iff {c : Char} : c.isAlphanum = true ↔
    '0' ≤ c ∧ c ≤ '9' ∨ 'A' ≤ c ∧ c ≤ 'Z' ∨ 'a' ≤ c ∧ c ≤ 'z' := by
  rw [isAlphanum_eq, Bool.or_eq_true, Bool.or_eq_true, isUpper_iff, isLower_iff, isDigit_iff]
  exact or_comm

theorem Text.isAlphanum_of_isLower {c : Char} (hLower : c.isLower = true) :
    c.isAlphanum = true :=
  isAlphanum_iff.mpr (.inr (.inr (isLower_iff.mp hLower)))

theorem Text.isBlank_of_isAlphanum {c : Char} (hPlain : c.isAlphanum = true) :
    isBlank c = false := by
  have hCode : 48 ≤ c.toNat ∧ c.toNat ≤ 57 ∨ 65 ≤ c.toNat ∧ c.toNat ≤ 90 ∨
      97 ≤ c.toNat ∧ c.toNat ≤ 122 := isAlphanum_iff.mp hPlain
  simp only [isBlank, Bool.or_eq_false_iff, Bool.and_eq_false_iff, decide_eq_false_iff_not,
    beq_eq_false_iff_ne]
  omega

theorem Text.toUpper_of_not_isLower {c : Char} (hOther : ¬ c.isLower = true) : c.toUpper = c :=
  dif_neg (mt isLower_iff.mpr hOther)

theorem Text.isUpper_toUpper {c : Char} (hLower : c.isLower = true) :
    c.toUpper.isUpper = true := by
  have hRange : 'a'.val ≤ c.val ∧ c.val ≤ 'z'.val := isLower_iff.mp hLower
  have hUpper : c.toUpper = ⟨c.val + ('A'.val - 'a'.val), _⟩ := dif_pos hRange
  rw [isUpper_iff, Char.le_def, Char.le_def, hUpper]
  constructor <;> grind

theorem Text.isAlphanum_toUpper (c : Char) : c.toUpper.isAlphanum = c.isAlphanum := by
  by_cases hLower : c.isLower = true
  · rw [isAlphanum_of_isLower hLower, isAlphanum_eq, isUpper_toUpper hLower, Bool.true_or,
      Bool.true_or]
  · rw [toUpper_of_not_isLower hLower]

theorem Text.toUpper_toUpper (c : Char) : c.toUpper.toUpper = c.toUpper := by
  by_cases hLower : c.isLower = true
  · refine toUpper_of_not_isLower ?_
    have hUpper := isUpper_iff.mp (isUpper_toUpper hLower)
    intro hStill
    exact absurd (Char.le_trans (isLower_iff.mp hStill).1 hUpper.2) (by decide)
  · exact congrArg Char.toUpper (toUpper_of_not_isLower hLower)

theorem Text.isBlank_toUpper (c : Char) : isBlank c.toUpper = isBlank c := by
  by_cases hLower : c.isLower = true
  · have hPlain := isAlphanum_of_isLower hLower
    rw [isBlank_of_isAlphanum hPlain, isBlank_of_isAlphanum ((isAlphanum_toUpper c).trans hPlain)]
  · rw [toUpper_of_not_isLower hLower]

theorem Text.trimChars_map_toUpper (cs : List Char) :
    trimChars (cs.map Char.toUpper) = (trimChars cs).map Char.toUpper := by
  have hBlank : isBlank ∘ Char.toUpper = isBlank := funext isBlank_toUpper
  simp only [trimChars, List.dropWhile_map, ← List.map_reverse, hBlank]

/-- A colon is no letter. -/
theorem Text.colon_mem_map_toUpper {cs : List Char} : ':' ∈ cs.map Char.toUpper ↔ ':' ∈ cs := by
  rw [List.mem_map]
  constructor
  · rintro ⟨c, hMem, hColon⟩
    have hLower : ¬ c.isLower = true := by
      intro hLower
      have hPlain : (':' : Char).isAlphanum = true := by
        rw [← hColon, isAlphanum_toUpper]
        exact isAlphanum_of_isLower hLower
      cases hPlain
    rwa [← hColon, toUpper_of_not_isLower hLower]
  · intro hMem
    exact ⟨':', hMem, rfl⟩

/-! ## Symbols -/

/-- A symbol is made of 1 to 20 ASCII letters and digits. -/
structure IsSymbol (cs : List Char) : Prop where
  some : 1 ≤ cs.length
  short : cs.length ≤ 20
  plain : ∀ c ∈ cs, '0' ≤ c ∧ c ≤ '9' ∨ 'A' ≤ c ∧ c ≤ 'Z' ∨ 'a' ≤ c ∧ c ≤ 'z'

/-- A text names a symbol if it has it between blanks, whatever the case of its letters. -/
def NamesSymbol (raw : List Char) (symbol : String) : Prop :=
  ∃ before core after, raw = before ++ core ++ after ∧ (∀ c ∈ before, isBlank c = true) ∧
    (∀ c ∈ after, isBlank c = true) ∧ IsSymbol core ∧
    symbol = String.ofList (core.map Char.toUpper)

theorem isSymbol_iff {cs : List Char} : isSymbol cs = true ↔ IsSymbol cs := by
  rw [isSymbol, Bool.and_eq_true, Bool.and_eq_true, List.all_eq_true, decide_eq_true_eq,
    bne_iff_ne, ← List.length_pos_iff]
  simp only [isAlphanum_iff]
  exact ⟨fun ⟨⟨hSome, hShort⟩, hPlain⟩ => ⟨hSome, hShort, hPlain⟩,
    fun ⟨hSome, hShort, hPlain⟩ => ⟨⟨hSome, hShort⟩, hPlain⟩⟩

/-- A symbol has as many bytes as characters, so it does not matter which of them are counted. -/
theorem isSymbol_iff_bytes {cs : List Char} : isSymbol cs = true ↔
    cs ≠ [] ∧ (Utf8.bytes (String.ofList cs)).length ≤ maxSymbolLength ∧
      cs.all Char.isAlphanum = true := by
  have hLength (hPlain : cs.all Char.isAlphanum = true) :
      (Utf8.bytes (String.ofList cs)).length = cs.length := by
    have hAscii : ∀ c ∈ cs, c.toNat < 0x80 := by
      intro c hc
      have hCode : c.toNat ≤ 57 ∨ c.toNat ≤ 90 ∨ c.toNat ≤ 122 :=
        (isAlphanum_iff.mp (List.all_eq_true.mp hPlain c hc)).imp And.right
          (Or.imp And.right And.right)
      omega
    rw [Utf8.bytes_ofList_of_ascii hAscii, List.length_map]
  rw [isSymbol, Bool.and_eq_true, Bool.and_eq_true, decide_eq_true_eq, bne_iff_ne, and_assoc]
  refine and_congr_right fun _ => and_congr_left fun hPlain => ?_
  rw [hLength hPlain]

theorem IsSymbol.not_blank {cs : List Char} (hSymbol : IsSymbol cs) :
    ∀ c ∈ cs, isBlank c = false :=
  fun c hc => isBlank_of_isAlphanum (isAlphanum_iff.mpr (hSymbol.plain c hc))

theorem isSymbol_map_toUpper {cs : List Char} :
    IsSymbol (cs.map Char.toUpper) ↔ IsSymbol cs := by
  rw [← isSymbol_iff, ← isSymbol_iff, isSymbol, isSymbol]
  simp [Function.comp_def, isAlphanum_toUpper, bne]

/-- What a text names depends on its capitals only. -/
theorem namesSymbol_iff {raw : List Char} {symbol : String} : NamesSymbol raw symbol ↔
    IsSymbol ((trimChars raw).map Char.toUpper) ∧
      symbol = String.ofList ((trimChars raw).map Char.toUpper) := by
  rw [isSymbol_map_toUpper]
  constructor
  · rintro ⟨before, core, after, rfl, hBefore, hAfter, hCore, rfl⟩
    rw [trimChars_pad hBefore hAfter, trimChars_of_not_blank hCore.not_blank]
    exact ⟨hCore, rfl⟩
  · rintro ⟨hCore, rfl⟩
    obtain ⟨before, after, hRaw, hBefore, hAfter⟩ := exists_pad raw
    exact ⟨before, trimChars raw, after, hRaw, hBefore, hAfter, hCore, rfl⟩

theorem normalizeSymbol_eq_ok_iff {raw symbol : String} :
    normalizeSymbol raw = .ok symbol ↔ NamesSymbol raw.toList symbol := by
  rw [namesSymbol_iff, isSymbol_map_toUpper, ← isSymbol_iff, normalizeSymbol]
  by_cases hSymbol : isSymbol (trimChars raw.toList) = true
  · simp [hSymbol, eq_comm]
  · simp [hSymbol]

/-- There is no colon in a symbol, nor among the blanks around it. -/
theorem NamesSymbol.colon_not_mem {raw : List Char} {symbol : String}
    (hNames : NamesSymbol raw symbol) : ':' ∉ raw := by
  obtain ⟨before, core, after, rfl, hBefore, hAfter, hCore, -⟩ := hNames
  have hBlank : isBlank ':' = false := rfl
  intro hColon
  rcases List.mem_append.mp hColon with hColon | hColon
  · rcases List.mem_append.mp hColon with hColon | hColon
    · cases hBlank.symm.trans (hBefore _ hColon)
    · cases isAlphanum_iff.mpr (hCore.plain _ hColon)
  · cases hBlank.symm.trans (hAfter _ hColon)

/-- A symbol that was named names itself. -/
theorem NamesSymbol.itself {raw : List Char} {symbol : String} (hNames : NamesSymbol raw symbol) :
    NamesSymbol symbol.toList symbol := by
  obtain ⟨before, core, after, -, -, -, hCore, rfl⟩ := hNames
  refine ⟨[], core.map Char.toUpper, [], by simp, by simp, by simp,
    isSymbol_map_toUpper.mpr hCore, ?_⟩
  rw [List.map_map]
  exact congrArg _ (List.map_congr_left fun c _ => (toUpper_toUpper c).symm)

namespace RoomKey

variable {raw other : String} {key : RoomKey} {front back : List Char} {levels : Nat}

/-! ## Reading names -/

/-- The texts that name a room: a symbol, and behind the first colon, if there is one, a depth from
1 to 1000. -/
inductive Names : List Char → RoomKey → Prop
  | price {raw : List Char} {symbol : String} (hColon : ':' ∉ raw)
      (hSymbol : NamesSymbol raw symbol) : Names raw ⟨symbol, none⟩
  | book {raw literal : List Char} {symbol : String} {levels : Nat} (hColon : ':' ∉ raw)
      (hSymbol : NamesSymbol raw symbol) (hLevels : Numeral levels literal) (hLow : 1 ≤ levels)
      (hHigh : levels ≤ 1000) : Names (raw ++ ':' :: literal) ⟨symbol, some levels⟩

theorem splitColon_eq_none (hColon : ':' ∉ front) : splitColon front = none := by
  induction front with
  | nil => rfl
  | cons c front ih =>
    obtain ⟨hFirst, hRest⟩ := List.ne_and_not_mem_of_not_mem_cons hColon
    rw [splitColon, if_neg (Ne.symm hFirst), ih hRest, Option.map_none]

theorem splitColon_append (hColon : ':' ∉ front) :
    splitColon (front ++ ':' :: back) = some (front, back) := by
  induction front with
  | nil => rfl
  | cons c front ih =>
    obtain ⟨hFirst, hRest⟩ := List.ne_and_not_mem_of_not_mem_cons hColon
    rw [List.cons_append, splitColon, if_neg (Ne.symm hFirst), ih hRest, Option.map_some]

theorem price_eq_ok_iff :
    price raw = .ok key ↔ NamesSymbol raw.toList key.symbol ∧ key.levels = none := by
  rw [← normalizeSymbol_eq_ok_iff, price]
  obtain ⟨symbol, levels⟩ := key
  cases normalizeSymbol raw with
  | error error => exact iff_of_false (by rintro ⟨⟩) (by rintro ⟨⟨⟩, -⟩)
  | ok found => simp [bind, Except.bind, pure, Except.pure, eq_comm]

theorem book_eq_ok_iff : book raw levels = .ok key ↔
    (1 ≤ levels ∧ levels ≤ 1000) ∧ NamesSymbol raw.toList key.symbol ∧
      key.levels = some levels := by
  rw [← normalizeSymbol_eq_ok_iff, book]
  obtain ⟨symbol, depth⟩ := key
  by_cases hBad : levels = 0 ∨ maxBookLevels < levels
  · rw [if_pos hBad]
    unfold maxBookLevels at hBad
    exact iff_of_false (by rintro ⟨⟩) (by omega)
  · rw [if_neg hBad, and_iff_right (by unfold maxBookLevels at hBad; omega)]
    cases normalizeSymbol raw with
    | error error => exact iff_of_false (by rintro ⟨⟩) (by rintro ⟨⟨⟩, -⟩)
    | ok found => simp [bind, Except.bind, pure, Except.pure, eq_comm]

theorem parse_of_no_colon (hColon : ':' ∉ raw.toList) :
    parse raw = .ok key ↔ NamesSymbol raw.toList key.symbol ∧ key.levels = none := by
  rw [← price_eq_ok_iff, parse, splitColon_eq_none hColon]

/-- A depth that fits is small enough for every word. -/
theorem parse_of_colon (hRaw : raw.toList = front ++ ':' :: back) (hColon : ':' ∉ front) :
    parse raw = .ok key ↔ NamesSymbol front key.symbol ∧
      ∃ levels, Numeral levels back ∧ (1 ≤ levels ∧ levels ≤ 1000) ∧ key.levels = some levels := by
  have hParse : parse raw = .ok key ↔ ∃ levels,
      natural? (wordLimit 64) (String.ofList back) = some levels ∧
        book (String.ofList front) levels = .ok key := by
    rw [parse, hRaw, splitColon_append hColon]
    dsimp only
    cases natural? (wordLimit 64) (String.ofList back) with
    | none => simp
    | some levels => simp
  have hLimit : 1000 < wordLimit 64 := by decide
  simp only [hParse, natural?_eq_some_iff, book_eq_ok_iff, String.toList_ofList]
  constructor
  · rintro ⟨levels, ⟨hLevels, -⟩, hBounds, hSymbol, hKey⟩
    exact ⟨hSymbol, levels, hLevels, hBounds, hKey⟩
  · rintro ⟨hSymbol, levels, hLevels, hBounds, hKey⟩
    exact ⟨levels, ⟨hLevels, Nat.lt_of_le_of_lt hBounds.2 hLimit⟩, hBounds, hSymbol, hKey⟩

theorem parse_eq_ok_iff : parse raw = .ok key ↔ Names raw.toList key := by
  constructor
  · intro hParse
    obtain ⟨symbol, depth⟩ := key
    by_cases hColon : ':' ∈ raw.toList
    · obtain ⟨front, back, hRaw, hFront⟩ := List.eq_append_cons_of_mem hColon
      obtain ⟨hSymbol, levels, hLevels, ⟨hLow, hHigh⟩, hKey⟩ :=
        (parse_of_colon hRaw hFront).mp hParse
      obtain rfl : depth = some levels := hKey
      rw [hRaw]
      exact .book hFront hSymbol hLevels hLow hHigh
    · obtain ⟨hSymbol, hKey⟩ := (parse_of_no_colon hColon).mp hParse
      obtain rfl : depth = none := hKey
      exact .price hColon hSymbol
  · intro hNames
    generalize hRaw : raw.toList = cs at hNames
    cases hNames with
    | price hColon hSymbol =>
      subst hRaw
      exact (parse_of_no_colon hColon).mpr ⟨hSymbol, rfl⟩
    | book hColon hSymbol hLevels hLow hHigh =>
      exact (parse_of_colon hRaw hColon).mpr ⟨hSymbol, _, hLevels, ⟨hLow, hHigh⟩, rfl⟩

/-! ## Written names -/

/-- A key that was made, in whichever way. -/
inductive Made (key : RoomKey) : Prop
  | price {symbol : String} (hMade : price symbol = .ok key)
  | book {symbol : String} {levels : Nat} (hMade : book symbol levels = .ok key)
  | parse {raw : String} (hMade : parse raw = .ok key)

/-- What every key has that was made. -/
structure Proper (key : RoomKey) : Prop where
  symbol : NamesSymbol key.symbol.toList key.symbol
  levels : ∀ n ∈ key.levels, 1 ≤ n ∧ n ≤ 1000

theorem Names.proper {cs : List Char} (hNames : Names cs key) : key.Proper := by
  cases hNames with
  | price _ hSymbol => exact ⟨hSymbol.itself, by simp⟩
  | book _ hSymbol _ hLow hHigh => exact ⟨hSymbol.itself, by simp [hLow, hHigh]⟩

theorem Made.proper (hMade : key.Made) : key.Proper := by
  cases hMade with
  | price hPrice =>
    obtain ⟨hSymbol, hKey⟩ := price_eq_ok_iff.mp hPrice
    exact ⟨hSymbol.itself, by simp [hKey]⟩
  | book hBook =>
    obtain ⟨hBounds, hSymbol, hKey⟩ := book_eq_ok_iff.mp hBook
    exact ⟨hSymbol.itself, by simp [hKey, hBounds]⟩
  | parse hParse => exact (parse_eq_ok_iff.mp hParse).proper

theorem Proper.parse_toText (hProper : key.Proper) : parse key.toText = .ok key := by
  obtain ⟨symbol, levels⟩ := key
  obtain ⟨hSymbol, hLevels⟩ := hProper
  cases levels with
  | none => exact parse_eq_ok_iff.mpr (.price hSymbol.colon_not_mem hSymbol)
  | some n =>
    obtain ⟨hLow, hHigh⟩ := hLevels n rfl
    have hText : (toText ⟨symbol, some n⟩).toList =
        symbol.toList ++ ':' :: (natural n).toList := by
      simp [toText]
    rw [parse_eq_ok_iff, hText]
    exact .book hSymbol.colon_not_mem hSymbol (numeral_natural n) hLow hHigh

/-- No two keys share a name. -/
theorem Proper.eq_of_toText {key other : RoomKey} (hKey : key.Proper) (hOther : other.Proper)
    (hText : key.toText = other.toText) : key = other :=
  Except.ok.inj (hKey.parse_toText.symm.trans (hText ▸ hOther.parse_toText))

/-! ## Other spellings -/

/-- Two texts that differ at most in the case of the letters of the symbol and in the blanks around
it: a symbol without a colon in it, and the same rest. -/
inductive Alike : List Char → List Char → Prop
  | respelled {before after front back symbol other rest : List Char}
      (hBlank : ∀ c ∈ before ++ after ++ (front ++ back), isBlank c = true)
      (hCase : symbol.map Char.toUpper = other.map Char.toUpper) (hColon : ':' ∉ symbol)
      (hRest : rest = [] ∨ ∃ levels, rest = ':' :: levels) :
      Alike (before ++ symbol ++ after ++ rest) (front ++ other ++ back ++ rest)

variable {before after symbol part : List Char}

theorem namesSymbol_pad (hBlank : ∀ c ∈ before ++ after, isBlank c = true) (name : String) :
    NamesSymbol (before ++ symbol ++ after) name ↔
      IsSymbol (trimChars (symbol.map Char.toUpper)) ∧
        name = String.ofList (trimChars (symbol.map Char.toUpper)) := by
  obtain ⟨hBefore, hAfter⟩ := List.forall_mem_append.mp hBlank
  rw [namesSymbol_iff, trimChars_pad hBefore hAfter, trimChars_map_toUpper]

theorem colon_not_mem_pad (hBlank : ∀ c ∈ before ++ after, isBlank c = true)
    (hColon : ':' ∉ symbol) : ':' ∉ before ++ symbol ++ after := by
  have hPad : ':' ∉ before ++ after := by
    intro hMem
    cases hBlank _ hMem
  simp only [List.mem_append, not_or] at hPad ⊢
  exact ⟨⟨hPad.1, hColon⟩, hPad.2⟩

/-- What a text names depends on the symbol that its first part names, and on the rest. -/
theorem parse_iff_of_parts (hFront : ':' ∉ front) (hPart : ':' ∉ part)
    (hSame : ∀ symbol, NamesSymbol front symbol ↔ NamesSymbol part symbol) {rest : List Char}
    (hRest : rest = [] ∨ ∃ levels, rest = ':' :: levels) (hRaw : raw.toList = front ++ rest)
    (hOther : other.toList = part ++ rest) : parse raw = .ok key ↔ parse other = .ok key := by
  rcases hRest with rfl | ⟨levels, rfl⟩
  · rw [List.append_nil] at hRaw hOther
    rw [parse_of_no_colon (hRaw ▸ hFront), parse_of_no_colon (hOther ▸ hPart), hRaw, hOther, hSame]
  · rw [parse_of_colon hRaw hFront, parse_of_colon hOther hPart, hSame]

theorem Alike.parse_iff (hAlike : Alike raw.toList other.toList) :
    parse raw = .ok key ↔ parse other = .ok key := by
  generalize hRaw : raw.toList = cs, hOther : other.toList = ds at hAlike
  obtain ⟨hBlank, hCase, hColon, hRest⟩ := hAlike
  obtain ⟨hFirst, hSecond⟩ := List.forall_mem_append.mp hBlank
  have hColons := colon_mem_map_toUpper.not.mpr hColon
  rw [hCase, colon_mem_map_toUpper] at hColons
  refine parse_iff_of_parts (colon_not_mem_pad hFirst hColon) (colon_not_mem_pad hSecond hColons)
    ?_ hRest hRaw hOther
  intro name
  rw [namesSymbol_pad hFirst, namesSymbol_pad hSecond, hCase]

/-! ## Names and rooms -/

/-- **A name belongs to one room.** A text is read as the name of a room exactly if it is one: a
symbol of 1 to 20 ASCII letters and digits between blanks, alone or with a colon and a depth from 1
to 1000 behind it; the room has the symbol in capitals and that depth. A key that was made, in
whichever way, is read back from its own name, so keys with one name are one key. Texts that differ
only in the case and the blanks of the symbol name the same room, or none. -/
theorem names_one_room :
    (∀ raw key, parse raw = .ok key ↔ Names raw.toList key) ∧
    (∀ key, Made key → parse key.toText = .ok key) ∧
    (∀ key other, Made key → Made other → (key = other ↔ key.toText = other.toText)) ∧
    ∀ raw other key, Alike raw.toList other.toList →
      (parse raw = .ok key ↔ parse other = .ok key) := by
  refine ⟨fun raw key => parse_eq_ok_iff, fun key hMade => hMade.proper.parse_toText, ?_,
    fun raw other key hAlike => hAlike.parse_iff⟩
  intro key other hKey hOther
  exact ⟨congrArg toText, hKey.proper.eq_of_toText hOther.proper⟩

/-- The order book room of a symbol. -/
def twentyLevels : RoomKey := ⟨"BTCUSDT", some 20⟩

/-- Two spellings of its name. -/
def paddedName : String := "\u2003btcUsdt\u00a0:+0020"

def mixedName : String := "BTCusdt:+0020"

theorem names_one_room_of_respelled :
    Alike paddedName.toList mixedName.toList ∧ parse paddedName = .ok twentyLevels ∧
      Made twentyLevels ∧ parse twentyLevels.toText = .ok twentyLevels ∧
      Made ⟨"BTCUSDT", none⟩ ∧ twentyLevels.toText ≠ toText ⟨"BTCUSDT", none⟩ := by
  obtain ⟨-, hRead, hApart, hSame⟩ := names_one_room
  have hAlike : Alike paddedName.toList mixedName.toList := by
    have hPadded : paddedName.toList =
        ['\u2003'] ++ "btcUsdt".toList ++ ['\u00a0'] ++ ':' :: "+0020".toList := by decide +kernel
    have hMixed : mixedName.toList = [] ++ "BTCusdt".toList ++ [] ++ ':' :: "+0020".toList := by
      decide +kernel
    rw [hPadded, hMixed]
    exact .respelled (List.all_eq_true.mp rfl) (by decide) (by decide) (.inr ⟨_, rfl⟩)
  have hParse : parse mixedName = .ok twentyLevels := by decide +kernel
  have hBook : Made twentyLevels := .parse hParse
  have hPrice : Made ⟨"BTCUSDT", none⟩ := .price (by decide +kernel : price "BTCUSDT" = _)
  refine ⟨hAlike, (hSame _ _ _ hAlike).mpr hParse, hBook, hRead _ hBook, hPrice, ?_⟩
  exact (hApart _ _ hBook hPrice).not.mp (by decide)

example : parse "BTCUSDT:1:2" = .error (.invalidKey "BTCUSDT:1:2") := by decide +kernel

end RoomKey

end MarketGateway
