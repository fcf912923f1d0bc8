import QuerySignature.Text.Blank
import QuerySignature.Text.Decimal

/-!
# Text/Numeral — reading and writing decimal numerals

`natural?` reads a run of decimal digits of any script; `integer?` also takes a sign, white space
around it and single low lines between digits; `decimal?` writes an integer.  A numeral of more than
`maxDigits` digits is neither read nor written.  `isDigits` is the weaker test that every character has a
digit value: a superscript passes it, and `natural?` then reads nothing.
-/

namespace QuerySignature.Text

/-- Numerals with more digits than this are neither read nor written. -/
def maxDigits : Nat := 4300

/-- **The decimal writing of an integer**, if it has not too many digits. -/
def decimal? (n : Int) : Option Text :=
  if maxDigits < (ofNat n.natAbs).length then none else some (ofInt n)

/-- Every character has a digit value, and there is one. -/
def isDigits (text : Text) : Bool :=
  !text.isEmpty && text.all isDigit

/-- The number written by a list of digit values, most significant first. -/
def valueOfDigits (digits : List Nat) : Nat :=
  digits.foldl (fun value digit => 10 * value + digit) 0

/-- **A natural number from its decimal digits**, of any script. -/
def natural? (text : Text) : Option Nat := do
  let digits ← text.mapM decimalValue?
  if digits.isEmpty || maxDigits < digits.length then none else some (valueOfDigits digits)

/-- White space that may surround a numeral: the separators U+001C to U+001F do not count. -/
def surroundsNumeral (c : Char) : Bool :=
  isBlank c && !(0x1C ≤ c.toNat && c.toNat ≤ 0x1F)

/-- The text without the white space at both its ends. -/
def trimmed (text : Text) : Text :=
  ((text.dropWhile surroundsNumeral).reverse.dropWhile surroundsNumeral).reverse

/-- The digits of a numeral without the single low lines between them; `none` if a low line stands
elsewhere. -/
def withoutLowLines : Text → Option Text
  | [] => some []
  | [c] => if c = '_' then none else some [c]
  | c :: d :: rest =>
    if c = '_' then none
    else if d = '_' then (withoutLowLines rest).bind fun tail =>
      if tail.isEmpty then none else some (c :: tail)
    else (withoutLowLines (d :: rest)).map (c :: ·)

/-- **An integer from its numeral**: white space, a sign, digits with single low lines between
them, white space. -/
def integer? (text : Text) : Option Int := do
  match trimmed text with
  | '-' :: digits => return -(← (← withoutLowLines digits) |> natural?)
  | '+' :: digits => return (← (← withoutLowLines digits) |> natural?)
  | digits => return (← (← withoutLowLines digits) |> natural?)

/-- Decimal digits have their values. -/
theorem mapM_decimalValue? {text : Text} (h : text.all isDecimal = true) :
    ∃ digits, text.mapM decimalValue? = some digits ∧ digits.length = text.length := by
  induction text with
  | nil => exact ⟨[], rfl, rfl⟩
  | cons c text ih =>
    obtain ⟨decimal, others⟩ := Bool.and_eq_true_iff.mp h
    obtain ⟨digit, value⟩ := Option.isSome_iff_exists.mp (decimalValue?_isSome decimal)
    obtain ⟨digits, values, length⟩ := ih others
    refine ⟨digit :: digits, ?_, congrArg Nat.succ length⟩
    rw [List.mapM_cons, value, values]
    rfl

/-- **A run of decimal digits is a number** unless it is too long. -/
theorem natural?_eq_none {text : Text} (h : text.all isDecimal = true) (some_ : text ≠ []) :
    natural? text = none ↔ maxDigits < text.length := by
  obtain ⟨digits, values, length⟩ := mapM_decimalValue? h
  have pos : digits ≠ [] := by
    rintro rfl
    exact some_ (List.length_eq_zero_iff.mp length.symm)
  unfold natural?
  rw [values]
  simp [pos, length]

end QuerySignature.Text
