import CatalogFilter.Proofs.JsonText
import CatalogFilter.Proofs.Runs

/-!
# Reading numbers

The reader of numbers takes exactly the numbers of the grammar apart. Each part ends where its
characters end, so the reader needs no look ahead: a character that could go on with a part is
never the first of the next one. A number of the grammar is refused only where it is too large.
-/

namespace CatalogFilter.Json

open JsonNumber

/-- No digit comes first. -/
def NoDigitAhead (text : List Char) : Prop :=
  ∀ c ∈ text.head?, c.isDigit = false

theorem digits?_eq_some_iff {text digits rest : List Char} :
    digits? text = some (digits, rest) ↔
      text = digits ++ rest ∧ Digits digits ∧ NoDigitAhead rest := by
  constructor
  · intro found
    unfold digits? at found
    split at found
    · cases found
    · rename_i first others taken
      cases found
      rw [← taken]
      refine ⟨(List.takeWhile_append_dropWhile ..).symm, ⟨?_, ?_⟩, ?_⟩
      · simp [taken]
      · exact of_mem_takeWhile text
      · exact of_mem_head?_dropWhile text
  · rintro ⟨rfl, ⟨nonempty, areDigits⟩, stops⟩
    obtain ⟨first, others, rfl⟩ := List.exists_cons_of_ne_nil nonempty
    rw [digits?, takeWhile_run areDigits stops, dropWhile_run areDigits stops]

theorem digits?_eq_some_nil_iff {text digits : List Char} :
    digits? text = some (digits, []) ↔ text = digits ∧ Digits digits := by
  simp [digits?_eq_some_iff, NoDigitAhead]

theorem Digits.head {digits : List Char} (areDigits : Digits digits) (rest : List Char) :
    ∃ first others, digits ++ rest = first :: others ∧ first.isDigit = true := by
  obtain ⟨nonempty, all⟩ := areDigits
  obtain ⟨first, others, rfl⟩ := List.exists_cons_of_ne_nil nonempty
  exact ⟨first, others ++ rest, rfl, all first (List.mem_cons_self ..)⟩

theorem WholeText.digits {whole : List Char} (spelled : WholeText whole) : Digits whole := by
  cases spelled with
  | zero =>
      exact ⟨by simp, by simp⟩
  | positive digit _ others =>
      refine ⟨by simp, ?_⟩
      intro c member
      cases member with
      | head => exact digit
      | tail _ later => exact others c later

theorem whole?_eq_some_iff {text whole rest : List Char} :
    whole? text = some (whole, rest) ↔
      text = whole ++ rest ∧ WholeText whole ∧ NoDigitAhead rest := by
  constructor
  · intro found
    unfold whole? at found
    split at found
    · cases found
    · rename_i notPadded
      obtain ⟨split, ⟨nonempty, all⟩, stops⟩ := digits?_eq_some_iff.1 found
      refine ⟨split, ?_, stops⟩
      obtain ⟨first, others, rfl⟩ := List.exists_cons_of_ne_nil nonempty
      by_cases zero : first = '0'
      · cases others with
        | nil =>
            rw [zero]
            exact .zero
        | cons second others =>
            rw [zero] at found
            exact absurd found (notPadded second others rest)
      · have later : ∀ c ∈ others, c.isDigit = true := by
          intro c member
          exact all c (List.mem_cons_of_mem first member)
        exact .positive (all first (List.mem_cons_self ..)) zero later
  · rintro ⟨split, spelled, stops⟩
    have found := digits?_eq_some_iff.2 ⟨split, spelled.digits, stops⟩
    unfold whole?
    rw [found]
    cases spelled with
    | zero =>
        rfl
    | positive digit notZero others =>
        split
        · rename_i padded
          cases padded
          exact absurd rfl notZero
        · rfl

theorem fractionText_of_fraction?
    {text rest : List Char} {fraction : Option (List Char)}
    (found : fraction? text = some (fraction, rest)) :
    ∃ spelled, FractionText spelled ∧ text = spelled ++ rest := by
  unfold fraction? at found
  split at found
  · rename_i afterPoint
    rw [Option.map_eq_some_iff] at found
    obtain ⟨⟨digits, after⟩, taken, same⟩ := found
    cases same
    obtain ⟨split, areDigits, _⟩ := digits?_eq_some_iff.1 taken
    exact ⟨'.' :: digits, .digits areDigits, by rw [split, List.cons_append]⟩
  · cases found
    exact ⟨[], .none, rfl⟩

theorem exists_fraction?_eq_some
    {spelled rest : List Char} (fraction : FractionText spelled)
    (noDigit : NoDigitAhead rest) (noPoint : ∀ c ∈ rest.head?, c ≠ '.') :
    ∃ digits, fraction? (spelled ++ rest) = some (digits, rest) := by
  cases fraction with
  | none =>
      refine ⟨none, ?_⟩
      unfold fraction?
      split
      · rename_i afterPoint pointed
        rw [List.nil_append] at pointed
        exact absurd rfl (noPoint '.' (by rw [pointed]; rfl))
      · rfl
  | digits areDigits =>
      rename_i digits
      refine ⟨some digits, ?_⟩
      have taken := digits?_eq_some_iff.2 ⟨rfl, areDigits, noDigit⟩
      rw [List.cons_append, fraction?, taken]
      rfl

theorem exponentText_of_exponent?
    {text : List Char} {exponent : Option Int}
    (found : exponent? text = some (exponent, [])) :
    ExponentText text := by
  cases text with
  | nil =>
      exact .none
  | cons mark rest =>
      simp only [exponent?] at found
      split at found
      · rename_i isMark
        split at found
        all_goals
          rw [Option.map_eq_some_iff] at found
          obtain ⟨⟨digits, after⟩, taken, same⟩ := found
          cases same
          obtain ⟨rfl, areDigits⟩ := digits?_eq_some_nil_iff.1 taken
        · exact .signed isMark (.inr rfl) areDigits
        · exact .signed isMark (.inl rfl) areDigits
        · exact .unsigned isMark areDigits
      · cases found

theorem exists_exponent?_eq_some
    {text : List Char} (exponent : ExponentText text) :
    ∃ size, exponent? text = some (size, []) := by
  cases exponent with
  | none =>
      exact ⟨none, rfl⟩
  | signed isMark isSign areDigits =>
      have taken := digits?_eq_some_nil_iff.2 ⟨rfl, areDigits⟩
      simp only [exponent?, if_pos isMark]
      obtain rfl | rfl := isSign <;> simp [taken]
  | unsigned isMark areDigits =>
      have taken := digits?_eq_some_nil_iff.2 ⟨rfl, areDigits⟩
      simp only [exponent?, if_pos isMark]
      -- digits begin with no sign
      split
      · exact absurd (areDigits.2 '-' (by simp)) (by decide)
      · exact absurd (areDigits.2 '+' (by simp)) (by decide)
      · simp [taken]

/-! ## A number as a whole -/

theorem ExponentText.ahead {text : List Char} (exponent : ExponentText text) :
    NoDigitAhead text ∧ ∀ c ∈ text.head?, c ≠ '.' := by
  have ofMark {mark : Char} (isMark : mark = 'e' ∨ mark = 'E') :
      mark.isDigit = false ∧ mark ≠ '.' := by
    obtain rfl | rfl := isMark <;> decide
  cases exponent with
  | none =>
      simp [NoDigitAhead]
  | unsigned isMark _ | signed isMark _ _ =>
      simpa [NoDigitAhead] using ofMark isMark

theorem FractionText.noDigitAhead
    {fraction exponent : List Char} (spelled : FractionText fraction)
    (after : ExponentText exponent) :
    NoDigitAhead (fraction ++ exponent) := by
  cases spelled with
  | none =>
      exact after.ahead.1
  | digits =>
      simp [NoDigitAhead]

theorem MagnitudeText.head {text : List Char} (spelled : MagnitudeText text) :
    ∃ first others, text = first :: others ∧ first.isDigit = true := by
  obtain ⟨whole, _, _⟩ := spelled
  exact whole.digits.head _

/-- The three readers take a magnitude apart, one after the other. -/
theorem magnitudeText_iff {text : List Char} :
    MagnitudeText text ↔
      ∃ whole afterWhole fraction afterFraction exponent,
        whole? text = some (whole, afterWhole) ∧
          fraction? afterWhole = some (fraction, afterFraction) ∧
            exponent? afterFraction = some (exponent, []) := by
  constructor
  · rintro ⟨whole, fraction, exponent⟩
    obtain ⟨digits, pointed⟩ :=
      exists_fraction?_eq_some fraction exponent.ahead.1 exponent.ahead.2
    obtain ⟨size, scaled⟩ := exists_exponent?_eq_some exponent
    have counted := whole?_eq_some_iff.2 ⟨rfl, whole, fraction.noDigitAhead exponent⟩
    exact ⟨_, _, _, _, _, counted, pointed, scaled⟩
  · rintro ⟨_, _, _, _, _, counted, pointed, scaled⟩
    obtain ⟨rfl, whole, _⟩ := whole?_eq_some_iff.1 counted
    obtain ⟨spelled, fraction, rfl⟩ := fractionText_of_fraction? pointed
    exact .parts whole fraction (exponentText_of_exponent? scaled)

theorem exists_parts?_eq_some {text : List Char} (number : NumberText text) :
    ∃ parts, parts? text = some parts := by
  cases number with
  | negative magnitude =>
      obtain ⟨_, _, _, _, _, counted, pointed, scaled⟩ := magnitudeText_iff.1 magnitude
      simp [parts?, counted, pointed, scaled]
  | unsigned magnitude =>
      obtain ⟨_, _, _, _, _, counted, pointed, scaled⟩ := magnitudeText_iff.1 magnitude
      unfold parts?
      split
      rename_i negative unsigned sign
      split at sign
      · obtain ⟨first, others, opened, digit⟩ := magnitude.head
        cases opened
        exact absurd digit (by decide)
      · cases sign
        simp [counted, pointed, scaled]

theorem numberText_of_parts?
    {text : List Char} {parts : Parts} (found : parts? text = some parts) :
    NumberText text := by
  unfold parts? at found
  split at found
  rename_i negative unsigned sign
  simp only [Option.bind_eq_bind, Option.bind_eq_some_iff] at found
  obtain ⟨⟨whole, afterWhole⟩, counted, ⟨fraction, afterFraction⟩, pointed,
    ⟨exponent, rest⟩, scaled, found⟩ := found
  split at found
  · rename_i ended
    rw [show rest = [] from ended] at scaled
    have magnitude := magnitudeText_iff.2 ⟨_, _, _, _, _, counted, pointed, scaled⟩
    split at sign
    · cases sign
      exact .negative magnitude
    · cases sign
      exact .unsigned magnitude
  · cases found

/-! ## Numbers that are taken -/

/-- Scaling fails only upwards. -/
theorem scale?_eq_none_iff {significand : Nat} {power : Int} :
    scale? significand power = none ↔ PastDoubles significand power := by
  rw [scale?, PastDoubles]
  by_cases downwards : power < 0
  · rw [if_pos downwards]
    constructor
    · intro nothing
      cases nothing
    · intro past
      omega
  · rw [if_neg downwards, multiply?, greatestPower]
    by_cases beyond : 308 < power.natAbs
    · rw [if_pos beyond]
      have large : 308 < power := by omega
      by_cases zero : (Float.ofNat significand == 0) = true
      · simp [zero]
        omega
      · simp [zero, large]
    · rw [if_neg beyond]
      have notLarge : ¬ 308 < power := by omega
      have within : 0 ≤ power ∧ power ≤ 308 := by omega
      simp [notLarge, within]

theorem real?_eq_none_iff {parts : Parts} :
    parts.real? = none ↔ PastDoubles parts.scaled.1 parts.scaled.2 := by
  rw [← scale?_eq_none_iff, Parts.real?]
  cases scaled : scale? parts.scaled.1 parts.scaled.2 with
  | none =>
      simp [scaled]
  | some value =>
      simp [scaled]

/-- A number is too large when it becomes neither a whole number nor a double. -/
theorem tooLarge_iff {parts : Parts} :
    TooLarge parts ↔ parts.integer? = none ∧ parts.real? = none := by
  rw [TooLarge, real?_eq_none_iff]

/-- A text is read as a number when it spells one and the reader takes it. -/
theorem exists_read?_eq_some_iff {text : List Char} :
    (∃ value, read? text = some value) ↔ NumberText text ∧ Limits.reader.takes text := by
  constructor
  · rintro ⟨value, found⟩
    simp only [read?, Option.bind_eq_bind, Option.bind_eq_some_iff] at found
    obtain ⟨parts, taken, found⟩ := found
    refine ⟨numberText_of_parts? taken, ?_⟩
    intro others same tooLarge
    rw [taken] at same
    cases same
    obtain ⟨noWhole, noDouble⟩ := tooLarge_iff.1 tooLarge
    rw [noWhole] at found
    simp [noDouble] at found
  · rintro ⟨number, takes⟩
    obtain ⟨parts, taken⟩ := exists_parts?_eq_some number
    have fits := takes parts taken
    simp only [read?, taken, Option.bind_eq_bind, Option.bind_some]
    cases whole : parts.integer? with
    | some value =>
        exact ⟨.integer value, rfl⟩
    | none =>
        cases double : parts.real? with
        | some value =>
            exact ⟨.real value, rfl⟩
        | none =>
            exact absurd (tooLarge_iff.2 ⟨whole, double⟩) fits

/-! ## The characters of a number -/

theorem isNumberChar_of_isDigit {c : Char} (digit : c.isDigit = true) : isNumberChar c = true := by
  simp [isNumberChar, digit]

theorem Digits.numberChars {digits : List Char} (areDigits : Digits digits) :
    ∀ c ∈ digits, isNumberChar c = true :=
  fun c member => isNumberChar_of_isDigit (areDigits.2 c member)

theorem FractionText.numberChars {fraction : List Char} (spelled : FractionText fraction) :
    ∀ c ∈ fraction, isNumberChar c = true := by
  cases spelled with
  | none =>
      simp
  | digits areDigits =>
      rw [List.forall_mem_cons]
      exact ⟨by decide, areDigits.numberChars⟩

theorem ExponentText.numberChars {exponent : List Char} (spelled : ExponentText exponent) :
    ∀ c ∈ exponent, isNumberChar c = true := by
  have ofMark {mark : Char} (isMark : mark = 'e' ∨ mark = 'E') : isNumberChar mark = true := by
    obtain rfl | rfl := isMark <;> decide
  have ofSign {sign : Char} (isSign : sign = '+' ∨ sign = '-') : isNumberChar sign = true := by
    obtain rfl | rfl := isSign <;> decide
  cases spelled with
  | none =>
      simp
  | unsigned isMark areDigits =>
      rw [List.forall_mem_cons]
      exact ⟨ofMark isMark, areDigits.numberChars⟩
  | signed isMark isSign areDigits =>
      rw [List.forall_mem_cons, List.forall_mem_cons]
      exact ⟨ofMark isMark, ofSign isSign, areDigits.numberChars⟩

theorem MagnitudeText.numberChars {text : List Char} (spelled : MagnitudeText text) :
    ∀ c ∈ text, isNumberChar c = true := by
  obtain ⟨whole, fraction, exponent⟩ := spelled
  rw [List.forall_mem_append, List.forall_mem_append]
  exact ⟨whole.digits.numberChars, fraction.numberChars, exponent.numberChars⟩

theorem NumberText.numberChars {text : List Char} (spelled : NumberText text) :
    ∀ c ∈ text, isNumberChar c = true := by
  cases spelled with
  | unsigned magnitude =>
      exact magnitude.numberChars
  | negative magnitude =>
      rw [List.forall_mem_cons]
      exact ⟨by decide, magnitude.numberChars⟩

theorem NumberText.head {text : List Char} (number : NumberText text) :
    ∃ first others, text = first :: others ∧ (first = '-' ∨ first.isDigit = true) := by
  cases number with
  | unsigned magnitude =>
      obtain ⟨first, others, opened, digit⟩ := magnitude.head
      exact ⟨first, others, opened, .inr digit⟩
  | negative =>
      exact ⟨'-', _, rfl, .inl rfl⟩

theorem numberText_of_read? {text : List Char} {value : JsonNumber}
    (found : JsonNumber.read? text = some value) : NumberText text :=
  (exists_read?_eq_some_iff.1 ⟨value, found⟩).1

end CatalogFilter.Json
