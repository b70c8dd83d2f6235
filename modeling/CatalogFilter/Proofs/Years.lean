import CatalogFilter.Catalog.Year
import CatalogFilter.Proofs.Decimals
import CatalogFilter.Proofs.LineBytes
import Mathlib.Data.List.Induction
import Mathlib.Data.Nat.Digits.Defs

/-!
# Which texts are years

Whether a text is a year is decided on bytes: there are four of them, a question mark at the end
apart, and each is that of a digit. No character but an ASCII one has such a byte in it, so these
are the texts of four ASCII digits. Neither a sign nor a second question mark nor a character of
several bytes is let through. Digits of one length are told apart by their value, so a year that is
not 0 shows which digits it was read from.
-/

namespace CatalogFilter

/-! ## Digits and their value -/

namespace Text

/-- The value of one ASCII digit. -/
def digitValue (c : Char) : Nat :=
  c.toNat - '0'.toNat

theorem digitValue_lt {c : Char} (digit : c.isDigit = true) : digitValue c < 10 := by
  have bounds := Char.isDigit_iff_toNat.1 digit
  have zero : '0'.toNat = 48 := rfl
  have nine : '9'.toNat = 57 := rfl
  unfold digitValue
  omega

/-- A digit is the character of its value. -/
theorem ofNat_digitValue {c : Char} (digit : c.isDigit = true) :
    Char.ofNat ('0'.toNat + digitValue c) = c := by
  have atLeast : '0'.toNat ≤ c.toNat := (Char.isDigit_iff_toNat.1 digit).1
  rw [digitValue, Nat.add_sub_cancel' atLeast, Char.ofNat_toNat]

theorem digitsValue_eq_ofDigits (digits : List Char) :
    digitsValue digits = Nat.ofDigits 10 (digits.reverse.map digitValue) := by
  induction digits using List.reverseRecOn with
  | nil =>
      rfl
  | append_singleton front last inductionHypothesis =>
      have step : digitsValue (front ++ [last]) = 10 * digitsValue front + digitValue last :=
        List.foldl_append
      rw [step, inductionHypothesis, List.reverse_append, List.reverse_singleton,
        List.singleton_append, List.map_cons, Nat.ofDigits_cons, Nat.add_comm]

theorem forall_mem_map_digitValue_lt
    {digits : List Char} (allDigits : ∀ c ∈ digits, c.isDigit = true) :
    ∀ value ∈ digits.reverse.map digitValue, value < 10 := by
  intro value member
  obtain ⟨c, within, rfl⟩ := List.mem_map.1 member
  exact digitValue_lt (allDigits c (List.mem_reverse.1 within))

theorem digitsValue_lt
    {digits : List Char} (allDigits : ∀ c ∈ digits, c.isDigit = true) :
    digitsValue digits < 10 ^ digits.length := by
  have bound :=
    Nat.ofDigits_lt_base_pow_length (b := 10) (by decide) (forall_mem_map_digitValue_lt allDigits)
  rw [← digitsValue_eq_ofDigits] at bound
  simpa using bound

/-- Digits of one length are told apart by their value. -/
theorem eq_of_digitsValue_eq
    {first second : List Char} (sameLength : first.length = second.length)
    (firstDigits : ∀ c ∈ first, c.isDigit = true)
    (secondDigits : ∀ c ∈ second, c.isDigit = true)
    (sameValue : digitsValue first = digitsValue second) :
    first = second := by
  rw [digitsValue_eq_ofDigits, digitsValue_eq_ofDigits] at sameValue
  have sameValues : first.reverse.map digitValue = second.reverse.map digitValue :=
    Nat.ofDigits_inj_of_len_eq (by decide) (by simpa using sameLength)
      (forall_mem_map_digitValue_lt firstDigits) (forall_mem_map_digitValue_lt secondDigits)
      sameValue
  have restored {digits : List Char} (allDigits : ∀ c ∈ digits, c.isDigit = true) :
      (digits.reverse.map digitValue).map (fun value => Char.ofNat ('0'.toNat + value)) =
        digits.reverse := by
    rw [List.map_map, List.map_congr_left, List.map_id']
    intro c member
    exact ofNat_digitValue (allDigits c (List.mem_reverse.1 member))
  rw [← List.reverse_inj, ← restored firstDigits, ← restored secondDigits, sameValues]

end Text

namespace Catalog

/-! ## Bytes of digits -/

theorem isDigitByte_iff {byte : UInt8} :
    isDigitByte byte = true ↔ '0'.toNat ≤ byte.toNat ∧ byte.toNat ≤ '9'.toNat := by
  rw [isDigitByte, Bool.and_eq_true, decide_eq_true_iff, decide_eq_true_iff,
    UInt8.le_iff_toNat_le, UInt8.le_iff_toNat_le]
  rfl

/-- The bytes of a character are all those of digits exactly if it is an ASCII digit. -/
theorem all_isDigitByte_utf8EncodeChar (c : Char) :
    (String.utf8EncodeChar c).all isDigitByte = c.isDigit := by
  rw [Bool.eq_iff_iff, List.all_eq_true, Char.isDigit_iff_toNat]
  have nine : '9'.toNat = 57 := rfl
  have code : c.toNat = c.val.toNat := rfl
  by_cases ascii : c.val.toNat ≤ 127
  · have byte : c.val.toUInt8.toNat = c.toNat := by
      rw [UInt32.toNat_toUInt8]
      omega
    rw [utf8EncodeChar_of_ascii ascii, List.forall_mem_singleton, isDigitByte_iff, byte]
  · -- Every byte is past the ASCII ones.
    constructor
    · intro digits
      obtain ⟨byte, member⟩ := List.exists_mem_of_ne_nil _ (String.utf8EncodeChar_ne_nil (c := c))
      have past := le_toNat_of_mem_utf8EncodeChar (Nat.lt_of_not_le ascii) byte member
      have within := (isDigitByte_iff.1 (digits byte member)).2
      omega
    · intro digit
      omega

theorem all_isDigitByte_utf8 (text : List Char) :
    (utf8 text).all isDigitByte = text.all Char.isDigit := by
  simp [utf8, List.all_flatMap, all_isDigitByte_utf8EncodeChar]

/-- A digit has one byte, so digits are counted alike as bytes and as characters. -/
theorem length_utf8_of_digits
    {digits : List Char} (allDigits : ∀ c ∈ digits, c.isDigit = true) :
    (utf8 digits).length = digits.length := by
  induction digits with
  | nil =>
      rfl
  | cons c rest inductionHypothesis =>
      rw [List.forall_mem_cons] at allDigits
      have atMost : c.toNat ≤ '9'.toNat := (Char.isDigit_iff_toNat.1 allDigits.1).2
      have ascii : c.val.toNat ≤ 127 := Nat.le_trans atMost (by decide)
      have split : utf8 (c :: rest) = String.utf8EncodeChar c ++ utf8 rest := List.flatMap_cons
      rw [split, utf8EncodeChar_of_ascii ascii, List.singleton_append, List.length_cons,
        List.length_cons, inductionHypothesis allDigits.2]

/-! ## Four digits -/

/-- Four ASCII digits. -/
structure FourDigits (digits : List Char) : Prop where
  length : digits.length = 4
  ascii : ∀ c ∈ digits, c.isDigit = true

theorem fourDigits_iff {digits : List Char} :
    FourDigits digits ↔ digits.length = 4 ∧ digits.all Char.isDigit = true := by
  rw [List.all_eq_true]
  exact ⟨fun four => ⟨four.length, four.ascii⟩, fun both => ⟨both.1, both.2⟩⟩

instance (digits : List Char) : Decidable (FourDigits digits) :=
  decidable_of_iff' _ fourDigits_iff

/-- Four bytes of digits are four digits. -/
theorem fourDigits_iff_bytes {digits : List Char} :
    FourDigits digits ↔
      (String.ofList digits).utf8ByteSize = 4 ∧
        (String.ofList digits).toUTF8.toList.all isDigitByte = true := by
  have bytes : (String.ofList digits).toUTF8.toList = utf8 digits := by
    rw [toList_toUTF8, String.toList_ofList]
  have size : (String.ofList digits).utf8ByteSize = (utf8 digits).length := by
    rw [← bytes, toList_eq_toList_data, Array.length_toList]
    rfl
  rw [fourDigits_iff, bytes, size, all_isDigitByte_utf8]
  apply and_congr_left
  intro allDigits
  rw [length_utf8_of_digits (List.all_eq_true.1 allDigits)]

namespace FourDigits

variable {digits : List Char}

theorem not_mem_of_isDigit_eq_false
    (four : FourDigits digits) {c : Char} (noDigit : c.isDigit = false) : c ∉ digits := by
  intro member
  rw [four.ascii c member] at noDigit
  cases noDigit

theorem digitsValue_lt (four : FourDigits digits) : Text.digitsValue digits < 10000 := by
  have bound := Text.digitsValue_lt four.ascii
  rwa [four.length] at bound

/-- The digits are read as their value: it is far from the bounds of the reader. -/
theorem readInt64?_eq (four : FourDigits digits) :
    Text.readInt64? (String.ofList digits) = some (Text.digitsValue digits : Int) := by
  have noPlus : (String.ofList digits).toList.head? ≠ some '+' := by
    rw [String.toList_ofList]
    intro ahead
    exact four.not_mem_of_isDigit_eq_false (by decide) (List.mem_of_mem_head? ahead)
  have nonempty : digits ≠ [] := List.ne_nil_of_length_eq_add_one four.length
  have bound := four.digitsValue_lt
  rw [Text.readInt64?_eq_some_iff noPlus, String.toList_ofList]
  refine ⟨.plain nonempty four.ascii, ?_⟩
  simp only [Text.FitsInt64, Text.minInt64, Text.maxInt64]
  omega

end FourDigits

/-! ## Texts of four digits -/

/-- The text is these four digits, or these and one question mark. -/
structure SpellsYear (digits : List Char) (text : String) : Prop where
  four : FourDigits digits
  whole : text.toList = digits ∨ text.toList = digits ++ ['?']

variable {digits : List Char} {text : String}

theorem spellsYear_iff_dropGuess :
    SpellsYear digits text ↔ dropGuess text.toList = digits ∧ FourDigits digits := by
  constructor
  · intro spells
    refine ⟨?_, spells.four⟩
    cases spells.whole with
    | inl plain =>
        have noGuess : text.toList.getLast? ≠ some '?' := by
          rw [plain]
          intro last
          exact spells.four.not_mem_of_isDigit_eq_false (by decide) (List.mem_of_getLast? last)
        rw [dropGuess, if_neg noGuess, plain]
    | inr guessed =>
        simp [dropGuess, guessed]
  · intro ⟨rest, four⟩
    refine ⟨four, ?_⟩
    by_cases guessed : text.toList.getLast? = some '?'
    · obtain ⟨front, split⟩ := List.getLast?_eq_some_iff.1 guessed
      rw [dropGuess, if_pos guessed, split, List.dropLast_concat] at rest
      rw [split, rest]
      exact .inr rfl
    · rw [dropGuess, if_neg guessed] at rest
      exact .inl rest

instance (digits : List Char) (text : String) : Decidable (SpellsYear digits text) :=
  decidable_of_iff' _ spellsYear_iff_dropGuess

theorem SpellsYear.take_eq (spells : SpellsYear digits text) : text.toList.take 4 = digits := by
  cases spells.whole with
  | inl plain =>
      rw [plain, List.take_of_length_le (Nat.le_of_eq spells.four.length)]
  | inr guessed =>
      rw [guessed, List.take_left' spells.four.length]

theorem SpellsYear.yearOf_eq (spells : SpellsYear digits text) :
    yearOf text = Text.digitsValue digits := by
  obtain ⟨rest, four⟩ := spellsYear_iff_dropGuess.1 spells
  rw [yearOf, rest, if_pos (fourDigits_iff_bytes.1 four), four.readInt64?_eq, Option.getD_some]

theorem yearOf_eq_zero (noYear : ∀ digits, ¬ SpellsYear digits text) : yearOf text = 0 := by
  have refused : ¬ FourDigits (dropGuess text.toList) := by
    intro four
    exact noYear _ (spellsYear_iff_dropGuess.2 ⟨rfl, four⟩)
  rw [yearOf, if_neg (mt fourDigits_iff_bytes.2 refused)]

/-- A year that is not 0 was read from digits. -/
theorem exists_spellsYear_of_yearOf_ne_zero (isYear : yearOf text ≠ 0) :
    ∃ digits, SpellsYear digits text := by
  apply Classical.byContradiction
  intro nothing
  exact isYear (yearOf_eq_zero (not_exists.1 nothing))

theorem SpellsYear.eq_of_yearOf_eq
    {otherDigits : List Char} {other : String} (spells : SpellsYear digits text)
    (otherSpells : SpellsYear otherDigits other) (same : yearOf text = yearOf other) :
    digits = otherDigits := by
  rw [spells.yearOf_eq, otherSpells.yearOf_eq] at same
  have sameLength : digits.length = otherDigits.length :=
    spells.four.length.trans otherSpells.four.length.symm
  exact Text.eq_of_digitsValue_eq sameLength spells.four.ascii otherSpells.four.ascii
    (Int.ofNat.inj same)

theorem SpellsYear.yearOf_eq_zero_iff (spells : SpellsYear digits text) :
    yearOf text = 0 ↔ digits = ['0', '0', '0', '0'] := by
  have zeros : SpellsYear ['0', '0', '0', '0'] "0000" := by
    decide
  have zero : yearOf "0000" = 0 := zeros.yearOf_eq
  constructor
  · intro isZero
    exact spells.eq_of_yearOf_eq zeros (isZero.trans zero.symm)
  · rintro rfl
    exact spells.yearOf_eq

theorem yearOf_bounds (text : String) : 0 ≤ yearOf text ∧ yearOf text ≤ 9999 := by
  by_cases spelled : ∃ digits, SpellsYear digits text
  · obtain ⟨digits, spells⟩ := spelled
    have bound := spells.four.digitsValue_lt
    rw [spells.yearOf_eq]
    omega
  · rw [yearOf_eq_zero (not_exists.1 spelled)]
    decide

/-! ## The years of all texts -/

/-- The year of a text is the value of its first four characters if these are ASCII digits and
nothing but one question mark comes after them, and 0 if not. So it lies between 0 and 9999, and two
texts have one year other than 0 exactly if, a question mark at the end apart, they are the same
four digits and not all of these are 0. -/
theorem yearOf_agrees_with_spelling (text : String) :
    yearOf text =
        (if SpellsYear (text.toList.take 4) text then Text.digitsValue (text.toList.take 4)
        else 0) ∧
      (0 ≤ yearOf text ∧ yearOf text ≤ 9999) ∧
      ∀ other,
        (yearOf text = yearOf other ∧ yearOf text ≠ 0) ↔
          ∃ digits,
            SpellsYear digits text ∧ SpellsYear digits other ∧ digits ≠ ['0', '0', '0', '0'] := by
  refine ⟨?_, yearOf_bounds text, ?_⟩
  · split
    · rename_i spells
      exact spells.yearOf_eq
    · rename_i noYear
      apply yearOf_eq_zero
      intro digits spells
      rw [spells.take_eq] at noYear
      exact noYear spells
  · intro other
    constructor
    · intro ⟨same, notZero⟩
      obtain ⟨digits, spells⟩ := exists_spellsYear_of_yearOf_ne_zero notZero
      have otherNotZero : yearOf other ≠ 0 := same ▸ notZero
      obtain ⟨otherDigits, otherSpells⟩ := exists_spellsYear_of_yearOf_ne_zero otherNotZero
      obtain rfl := spells.eq_of_yearOf_eq otherSpells same
      exact ⟨digits, spells, otherSpells, mt spells.yearOf_eq_zero_iff.2 notZero⟩
    · intro ⟨digits, spells, otherSpells, notZeros⟩
      refine ⟨?_, mt spells.yearOf_eq_zero_iff.1 notZeros⟩
      rw [spells.yearOf_eq, otherSpells.yearOf_eq]

/-- Four bytes, but three characters. -/
example : yearOf "19é" = 0 := by
  decide +kernel

end Catalog

end CatalogFilter
