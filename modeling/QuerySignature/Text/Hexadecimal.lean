import QuerySignature.Text.Basic

/-!
# Text/Hexadecimal — numbers in base sixteen

`hexNumber?` reads digits in either case; `hexadecimal` writes small letters, with zeros in front up to a
width.
-/

namespace QuerySignature.Text

/-- The value of a hexadecimal digit. -/
def hexDigit? (c : Char) : Option Nat :=
  if c.isDigit then some (c.toNat - '0'.toNat)
  else if 'a' ≤ c ∧ c ≤ 'f' then some (c.toNat - 'a'.toNat + 10)
  else if 'A' ≤ c ∧ c ≤ 'F' then some (c.toNat - 'A'.toNat + 10)
  else none

/-- **The number written by hexadecimal digits**; `none` if one of them is something else. -/
def hexNumber? (digits : Text) : Option Nat :=
  digits.foldl (fun value c => do return 16 * (← value) + (← hexDigit? c)) (some 0)

/-- A number in lower-case hexadecimal, filled with zeros to the width. -/
def hexadecimal (width n : Nat) : Text :=
  let digits := Nat.toDigits 16 n
  List.replicate (width - digits.length) '0' ++ digits

end QuerySignature.Text
