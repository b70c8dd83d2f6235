import CatalogFilter.Proofs.Atoms
import CatalogFilter.Proofs.Outcomes

/-!
# Comparisons with the year

A decimal is a word of bare characters that spells no operator, so a comparison of the year with a
decimal is a query as it is written. If a signed 64-bit word holds the value of the decimal, the
verdict is that of the comparison of whole numbers, and otherwise the decimal is named in the
failure: no verdict is made of a value that was wrapped or held at a limit.
-/

namespace CatalogFilter

namespace Operator

/-- The relation between whole numbers that a comparison writes. -/
def Relates (op : Operator) (left right : Int) : Prop :=
  match op with
  | .eq => left = right
  | .ne => left ≠ right
  | .gt => right < left
  | .lt => left < right
  | .ge => right ≤ left
  | .le => left ≤ right
  | _ => False

instance (op : Operator) (left right : Int) : Decidable (op.Relates left right) :=
  match op with
  | .eq => inferInstanceAs (Decidable (left = right))
  | .ne => inferInstanceAs (Decidable (left ≠ right))
  | .gt => inferInstanceAs (Decidable (right < left))
  | .lt => inferInstanceAs (Decidable (left < right))
  | .ge => inferInstanceAs (Decidable (right ≤ left))
  | .le => inferInstanceAs (Decidable (left ≤ right))
  | .and | .or | .not | .has | .lacks | .openParen | .closeParen =>
      inferInstanceAs (Decidable False)

theorem compare?_of_isComparison
    {op : Operator} (comparison : op.isComparison = true) (left right : Int) :
    op.compare? left right = some (decide (op.Relates left right)) := by
  cases op <;> first | rfl | cases comparison

end Operator

/-! ## Decimals in a query -/

theorem isBare_of_isDecimalChar {c : Char} (decimal : Text.isDecimalChar c = true) :
    isBare c = true := by
  rcases Bool.or_eq_true_iff.1 decimal with minus | digit
  · rw [of_decide_eq_true minus]
    decide
  · have atMost : c.toNat ≤ '9'.toNat := (Char.isDigit_iff_toNat.1 digit).2
    have ascii : c.toNat < 0x80 := Nat.lt_of_le_of_lt atMost (by decide)
    simp [isBare, Text.isAlphanumeric_of_ascii ascii, Char.isAlphanum, digit]

/-- A decimal needs no quotes. -/
theorem Text.IsDecimal.isBareWord
    {text : String} {value : Int} (decimal : IsDecimal text.toList value) :
    IsBareWord text where
  nonempty := by
    rintro rfl
    exact decimal.ne_nil rfl
  bare := by
    intro c member
    exact isBare_of_isDecimalChar (List.all_eq_true.1 decimal.all_isDecimalChar c member)
  unreserved := by
    have noDecimals : reservedWords.all (!·.toList.all Text.isDecimalChar) = true := by
      decide
    intro reserved
    have noDecimal := List.all_eq_true.1 noDecimals text reserved
    rw [decimal.all_isDecimalChar] at noDecimal
    cases noDecimal

theorem isBareWord_year : IsBareWord "year" := by
  decide

theorem Text.IsDecimal.ne_yearName
    {text : String} {value : Int} (decimal : IsDecimal text.toList value) :
    text ≠ Profile.yearName := by
  rintro rfl
  have noDecimal : Profile.yearName.toList.all Text.isDecimalChar = false := by
    decide
  rw [decimal.all_isDecimalChar] at noDecimal
  cases noDecimal

/-! ## The verdict of a comparison -/

variable {op : Operator} {text : String} {value : Int}

/-- The number that a decimal stands for, or the failure that names it. -/
def decimalNumber (text : String) (value : Int) : Except EvalError Int :=
  if Text.FitsInt64 value then .ok value else .error (.notAnInteger text)

theorem literalValue_of_isDecimal
    (decimal : Text.IsDecimal text.toList value) (subject : Subject) :
    Profile.numericYear.literalValue text subject = (decimalNumber text value).map .number := by
  have isText := decimal.isBareWord.isLiteralText
  have notYear := decimal.ne_yearName
  rw [decimalNumber]
  split
  · rename_i fits
    have read : Text.readInt64? text = some value := isText.readInt64?_eq_some_iff.2 ⟨decimal, fits⟩
    simp [Profile.literalValue, notYear, read, Except.map]
  · rename_i outside
    have refused : Text.readInt64? text = none := by
      rw [isText.readInt64?_eq_none_iff]
      rintro ⟨other, written, fits⟩
      rw [written.unique decimal] at fits
      exact outside fits
    simp [Profile.literalValue, notYear, refused, Except.map]

/-- A comparison of two literals compares the numbers that they stand for; if one of them stands for
none, the first that does not is what fails. -/
theorem Expr.evaluate_comparison
    {subject : Subject} {left right : String} {leftNumber rightNumber : Except EvalError Int}
    (comparison : op.isComparison = true)
    (accepted : Profile.numericYear.accepts subject = true)
    (leftRead : Profile.numericYear.literalValue left subject = leftNumber.map .number)
    (rightRead : Profile.numericYear.literalValue right subject = rightNumber.map .number) :
    (Expr.binary op (.literal left) (.literal right)).evaluate .numericYear subject =
      leftNumber.bind fun leftNumber =>
        rightNumber.map fun rightNumber => decide (op.Relates leftNumber rightNumber) := by
  rw [evaluate, verdict, if_pos accepted, value_comparison comparison]
  simp only [value, leftRead, rightRead]
  cases leftNumber with
  | error error =>
      rfl
  | ok leftNumber =>
      cases rightNumber with
      | error error =>
          rfl
      | ok rightNumber =>
          simp [Counted.asNumber, Counted.asVerdict, Except.map, Except.bind,
            Operator.compare?_of_isComparison comparison]

namespace Query

theorem run_comparison
    {subject : Subject} {left right : String} {leftNumber rightNumber : Except EvalError Int}
    (comparison : op.isComparison = true)
    (accepted : Profile.numericYear.accepts subject = true)
    (leftWord : IsBareWord left) (rightWord : IsBareWord right)
    (leftRead : Profile.numericYear.literalValue left subject = leftNumber.map .number)
    (rightRead : Profile.numericYear.literalValue right subject = rightNumber.map .number) :
    run .numericYear (left ++ " " ++ op.symbol ++ " " ++ right) subject =
      (leftNumber.bind fun leftNumber =>
        rightNumber.map fun rightNumber => decide (op.Relates leftNumber rightNumber)).mapError
          .evaluation := by
  have supported : Profile.numericYear.supports op = true :=
    Profile.supports_of_isComparison comparison
  rw [run, compile_comparison comparison supported leftWord rightWord]
  simp only [evaluate, Expr.evaluate_comparison comparison accepted leftRead rightRead]

/-- The year is compared with a decimal as with the number that the decimal stands for. -/
theorem run_year_decimal
    (comparison : op.isComparison = true) (year : Int)
    (decimal : Text.IsDecimal text.toList value) :
    run .numericYear ("year" ++ " " ++ op.symbol ++ " " ++ text) (.year year) =
        ((decimalNumber text value).map fun number => decide (op.Relates year number)).mapError
          .evaluation ∧
      run .numericYear (text ++ " " ++ op.symbol ++ " " ++ "year") (.year year) =
        ((decimalNumber text value).map fun number => decide (op.Relates number year)).mapError
          .evaluation := by
  have yearRead :
      Profile.numericYear.literalValue "year" (.year year) = (Except.ok year).map .number :=
    rfl
  have read := literalValue_of_isDecimal decimal (.year year)
  have isWord := decimal.isBareWord
  constructor
  · rw [run_comparison comparison rfl isBareWord_year isWord yearRead read]
    rfl
  · rw [run_comparison comparison rfl isWord isBareWord_year read yearRead]
    rfl

/-- The year is compared with each number of a signed 64-bit word as a whole number, and on either
side of the operator. A decimal whose value no such word holds is refused, however long it is. -/
theorem run_year_comparison (comparison : op.isComparison = true) (year : Int) :
    (∀ number : Int, Text.FitsInt64 number →
      run .numericYear ("year" ++ " " ++ op.symbol ++ " " ++ toString number) (.year year) =
          .ok (decide (op.Relates year number)) ∧
        run .numericYear (toString number ++ " " ++ op.symbol ++ " " ++ "year") (.year year) =
          .ok (decide (op.Relates number year))) ∧
    (∀ text value, Text.IsDecimal text.toList value → ¬ Text.FitsInt64 value →
      run .numericYear ("year" ++ " " ++ op.symbol ++ " " ++ text) (.year year) =
          .error (.evaluation (.notAnInteger text)) ∧
        run .numericYear (text ++ " " ++ op.symbol ++ " " ++ "year") (.year year) =
          .error (.evaluation (.notAnInteger text))) := by
  constructor
  · intro number fits
    have verdicts := run_year_decimal comparison year (Text.isDecimal_toString number)
    rwa [decimalNumber, if_pos fits] at verdicts
  · intro text value decimal outside
    have failures := run_year_decimal comparison year decimal
    rwa [decimalNumber, if_neg outside] at failures

/-- The least number of a word is compared, and the one after the greatest is refused. -/
theorem run_year_comparison_limits :
    let year : Subject := .year Text.minInt64
    run .numericYear "year >= -9223372036854775808" year = .ok true ∧
      run .numericYear "-9223372036854775808 >= year" year = .ok true ∧
      run .numericYear "year >= 9223372036854775808" year =
        .error (.evaluation (.notAnInteger "9223372036854775808")) ∧
      run .numericYear "9223372036854775808 >= year" year =
        .error (.evaluation (.notAnInteger "9223372036854775808")) := by
  intro year
  have comparison : Operator.ge.isComparison = true := rfl
  obtain ⟨compared, refused⟩ := run_year_comparison comparison Text.minInt64
  have least := compared Text.minInt64 (by decide)
  have past : Text.IsDecimal "9223372036854775808".toList 9223372036854775808 :=
    Text.isDecimal_toString 9223372036854775808
  have pastGreatest := refused _ _ past (by decide)
  exact ⟨least.1, least.2, pastGreatest.1, pastGreatest.2⟩

end Query

end CatalogFilter
