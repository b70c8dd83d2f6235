import CatalogFilter.Proofs.WellFormed
import CatalogFilter.Text.Integer

/-!
# Numbers that literals write

The reader of whole numbers holds a long run of digits at a limit and takes a plus sign. Neither
shows where a literal is read: a literal is made of characters without a plus sign, and it is read
exactly when it is written in decimal, with or without a minus sign, and its value fits a signed
64-bit word.
-/

namespace CatalogFilter

namespace Text

/-- `IsDecimal text value` means that `text` writes `value` in decimal: digits, or a minus sign and
digits. -/
inductive IsDecimal : List Char → Int → Prop
  | plain {digits : List Char} :
      digits ≠ [] →
      (∀ c ∈ digits, c.isDigit = true) →
      IsDecimal digits (digitsValue digits)
  | negated {digits : List Char} :
      digits ≠ [] →
      (∀ c ∈ digits, c.isDigit = true) →
      IsDecimal ('-' :: digits) (-(digitsValue digits))

/-- A signed 64-bit word holds the number. -/
def FitsInt64 (value : Int) : Prop :=
  minInt64 ≤ value ∧ value ≤ maxInt64

instance (value : Int) : Decidable (FitsInt64 value) :=
  inferInstanceAs (Decidable (minInt64 ≤ value ∧ value ≤ maxInt64))

/-- The text writes a number of a signed 64-bit word. -/
def IsInt64 (text : String) : Prop :=
  ∃ value, IsDecimal text.toList value ∧ FitsInt64 value

theorem isDecimal_minus_iff {digits : List Char} {value : Int} :
    IsDecimal ('-' :: digits) value ↔
      digits ≠ [] ∧ (∀ c ∈ digits, c.isDigit = true) ∧ value = -(digitsValue digits) := by
  constructor
  · intro decimal
    cases decimal with
    | plain _ allDigits =>
        have minusDigit := allDigits '-' (List.mem_cons_self ..)
        cases minusDigit
    | negated nonempty allDigits =>
        exact ⟨nonempty, allDigits, rfl⟩
  · rintro ⟨nonempty, allDigits, rfl⟩
    exact .negated nonempty allDigits

theorem isDecimal_iff_of_ne_minus
    {text : List Char} {value : Int} (unsigned : text.head? ≠ some '-') :
    IsDecimal text value ↔
      text ≠ [] ∧ (∀ c ∈ text, c.isDigit = true) ∧ value = digitsValue text := by
  constructor
  · intro decimal
    cases decimal with
    | plain nonempty allDigits =>
        exact ⟨nonempty, allDigits, rfl⟩
    | negated _ _ =>
        exact absurd rfl unsigned
  · rintro ⟨nonempty, allDigits, rfl⟩
    exact .plain nonempty allDigits

/-- The characters that decimals are made of. -/
def isDecimalChar (c : Char) : Bool :=
  c = '-' || c.isDigit

namespace IsDecimal

variable {text : List Char} {value : Int}

theorem ne_nil (decimal : IsDecimal text value) : text ≠ [] := by
  cases decimal with
  | plain nonempty _ =>
      exact nonempty
  | negated _ _ =>
      exact List.cons_ne_nil _ _

theorem all_isDecimalChar (decimal : IsDecimal text value) : text.all isDecimalChar = true := by
  rw [List.all_eq_true]
  intro c member
  cases decimal with
  | plain _ allDigits =>
      simp [isDecimalChar, allDigits c member]
  | negated _ allDigits =>
      rcases List.mem_cons.1 member with rfl | later
      · rfl
      · simp [isDecimalChar, allDigits c later]

theorem unique {other : Int} (first : IsDecimal text value) (second : IsDecimal text other) :
    value = other := by
  cases first with
  | plain nonempty allDigits =>
      cases second with
      | plain _ _ =>
          rfl
      | negated _ _ =>
          exact (isDecimal_minus_iff.1 (.plain nonempty allDigits)).2.2
  | negated _ _ =>
      exact (isDecimal_minus_iff.1 second).2.2.symm

end IsDecimal

/-- A whole number is written as a decimal. -/
theorem isDecimal_toString (number : Int) : IsDecimal (toString number).toList number := by
  have magnitude (natural : Nat) :
      (Nat.repr natural).toList ≠ [] ∧
        (∀ c ∈ (Nat.repr natural).toList, c.isDigit = true) ∧
        digitsValue (Nat.repr natural).toList = natural := by
    rw [Nat.toList_repr]
    exact ⟨Nat.toDigits_ne_nil, fun _ => Nat.isDigit_of_mem_toDigits (by decide) (by decide),
      Nat.ofDigitChars_ten_toDigits⟩
  rw [Int.toString_eq_repr, Int.repr_eq_if]
  split
  · rename_i nonnegative
    obtain ⟨nonempty, allDigits, whole⟩ := magnitude number.toNat
    have written := IsDecimal.plain nonempty allDigits
    rwa [whole, Int.toNat_of_nonneg nonnegative] at written
  · rename_i negative
    obtain ⟨nonempty, allDigits, whole⟩ := magnitude (-number).toNat
    have written := IsDecimal.negated nonempty allDigits
    rw [whole, Int.toNat_of_nonneg (by omega), Int.neg_neg] at written
    rwa [String.toList_append]

theorem readDigits?_eq_some_iff {text : List Char} {value : Nat} :
    readDigits? text = some value ↔
      text ≠ [] ∧ (∀ c ∈ text, c.isDigit = true) ∧ value = min pastWords (digitsValue text) := by
  rw [readDigits?, cappedValue_eq_min, ← List.all_eq_true]
  split
  · rename_i isRun
    simp [isRun, eq_comm]
  · rename_i noRun
    constructor
    · intro none
      cases none
    · rintro ⟨nonempty, allDigits, _⟩
      exact absurd ⟨nonempty, allDigits⟩ noRun

/-- No word holds the limit of the reader, so a number of a word that is read is the one written. -/
theorem min_pastWords_eq_iff
    {value : Int} {number : Nat} (fits : FitsInt64 value) :
    (min pastWords number : Nat) = value ↔ value = number := by
  simp only [FitsInt64, minInt64, maxInt64, pastWords] at *
  omega

theorem neg_min_pastWords_eq_iff
    {value : Int} {number : Nat} (fits : FitsInt64 value) :
    -((min pastWords number : Nat) : Int) = value ↔ value = -number := by
  simp only [FitsInt64, minInt64, maxInt64, pastWords] at *
  omega

/-- A text without a plus sign in front is read exactly as the number that it writes, if a word
holds that number. -/
theorem readInt64?_eq_some_iff
    {text : String} {value : Int} (noPlus : text.toList.head? ≠ some '+') :
    readInt64? text = some value ↔ IsDecimal text.toList value ∧ FitsInt64 value := by
  unfold readInt64?
  generalize text.toList = characters at noPlus ⊢
  split
  · rename_i digits
    rw [isDecimal_minus_iff]
    simp only [Option.pure_def, Option.bind_eq_bind, Option.map_bind, ← FitsInt64.eq_def,
      Option.bind_eq_some_iff, readDigits?_eq_some_iff, Function.comp_apply, Option.map_some,
      Option.some.injEq, Option.ite_none_right_eq_some, exists_eq_right_right,
      and_congr_left_iff]
    intro fits
    simp [← neg_min_pastWords_eq_iff fits, and_assoc]
  · exact absurd rfl noPlus
  · rename_i noMinus _
    have unsigned : characters.head? ≠ some '-' := by
      intro ahead
      obtain ⟨digits, rfl⟩ := List.head?_eq_some_iff.1 ahead
      exact noMinus digits rfl
    rw [isDecimal_iff_of_ne_minus unsigned]
    simp only [← FitsInt64.eq_def, Option.bind_eq_bind, Option.bind_eq_some_iff,
      Option.map_eq_some_iff, readDigits?_eq_some_iff, Int.ofNat_eq_natCast,
      Option.ite_none_right_eq_some, Option.some.injEq, exists_eq_right_right,
      and_congr_left_iff]
    intro fits
    simp [← min_pastWords_eq_iff fits, and_assoc]

end Text

namespace IsLiteralText

open Text

theorem head?_ne_plus {text : String} (isText : IsLiteralText text) :
    text.toList.head? ≠ some '+' := by
  intro ahead
  have quotable : isQuotable '+' = true := isText.2 '+' (List.mem_of_mem_head? ahead)
  exact absurd quotable (by decide)

/-- A literal is read as the number that it writes, if a word holds that number. -/
theorem readInt64?_eq_some_iff
    {text : String} {value : Int} (isText : IsLiteralText text) :
    readInt64? text = some value ↔ IsDecimal text.toList value ∧ FitsInt64 value :=
  Text.readInt64?_eq_some_iff isText.head?_ne_plus

theorem readInt64?_eq_none_iff {text : String} (isText : IsLiteralText text) :
    readInt64? text = none ↔ ¬ IsInt64 text := by
  rw [Option.eq_none_iff_forall_ne_some, IsInt64, not_exists]
  apply forall_congr'
  intro value
  rw [Ne, isText.readInt64?_eq_some_iff]

end IsLiteralText

end CatalogFilter
