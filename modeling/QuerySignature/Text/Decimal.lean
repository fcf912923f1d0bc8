import QuerySignature.Text.Basic

/-!
# Text/Decimal — decimal digits of every script

A decimal digit is a character of category `Nd`.  Every such script has its ten digits in one
ascending block, and the blocks below are whole multiples of ten long, so the value of a digit is its
distance from the start of its block modulo ten.  `isDigit` is the larger class of the characters
with a digit value, which adds superscripts and circled digits: they are digits to look at, but no
numeral can be read from them (`decimalValue? = none`).
-/

namespace QuerySignature.Text

/-- The blocks of decimal digits beyond ASCII (Unicode 14.0). -/
def decimalRanges : Ranges :=
  [(0x660, 0x669), (0x6F0, 0x6F9), (0x7C0, 0x7C9), (0x966, 0x96F), (0x9E6, 0x9EF),
   (0xA66, 0xA6F), (0xAE6, 0xAEF), (0xB66, 0xB6F), (0xBE6, 0xBEF), (0xC66, 0xC6F),
   (0xCE6, 0xCEF), (0xD66, 0xD6F), (0xDE6, 0xDEF), (0xE50, 0xE59), (0xED0, 0xED9),
   (0xF20, 0xF29), (0x1040, 0x1049), (0x1090, 0x1099), (0x17E0, 0x17E9), (0x1810, 0x1819),
   (0x1946, 0x194F), (0x19D0, 0x19D9), (0x1A80, 0x1A89), (0x1A90, 0x1A99), (0x1B50, 0x1B59),
   (0x1BB0, 0x1BB9), (0x1C40, 0x1C49), (0x1C50, 0x1C59), (0xA620, 0xA629), (0xA8D0, 0xA8D9),
   (0xA900, 0xA909), (0xA9D0, 0xA9D9), (0xA9F0, 0xA9F9), (0xAA50, 0xAA59), (0xABF0, 0xABF9),
   (0xFF10, 0xFF19), (0x104A0, 0x104A9), (0x10D30, 0x10D39), (0x11066, 0x1106F),
   (0x110F0, 0x110F9), (0x11136, 0x1113F), (0x111D0, 0x111D9), (0x112F0, 0x112F9),
   (0x11450, 0x11459), (0x114D0, 0x114D9), (0x11650, 0x11659), (0x116C0, 0x116C9),
   (0x11730, 0x11739), (0x118E0, 0x118E9), (0x11950, 0x11959), (0x11C50, 0x11C59),
   (0x11D50, 0x11D59), (0x11DA0, 0x11DA9), (0x16A60, 0x16A69), (0x16AC0, 0x16AC9),
   (0x16B50, 0x16B59), (0x1D7CE, 0x1D7FF), (0x1E140, 0x1E149), (0x1E2F0, 0x1E2F9),
   (0x1E950, 0x1E959), (0x1FBF0, 0x1FBF9)]

/-- The characters that have a digit value but are not decimal digits (Unicode 14.0). -/
def digitLikeRanges : Ranges :=
  [(0xB2, 0xB3), (0xB9, 0xB9), (0x1369, 0x1371), (0x19DA, 0x19DA), (0x2070, 0x2070),
   (0x2074, 0x2079), (0x2080, 0x2089), (0x2460, 0x2468), (0x2474, 0x247C), (0x2488, 0x2490),
   (0x24EA, 0x24EA), (0x24F5, 0x24FD), (0x24FF, 0x24FF), (0x2776, 0x277E), (0x2780, 0x2788),
   (0x278A, 0x2792), (0x10A40, 0x10A43), (0x10E60, 0x10E68), (0x11052, 0x1105A),
   (0x1F100, 0x1F10A)]

/-- **A decimal digit** of any script. -/
def isDecimal (c : Char) : Bool :=
  if c.toNat < 128 then c.isDigit else decimalRanges.has c

/-- **A character with a digit value**: a decimal digit, a superscript or a circled digit. -/
def isDigit (c : Char) : Bool :=
  isDecimal c || digitLikeRanges.has c

/-- The value of a decimal digit, `none` for any other character. -/
def decimalValue? (c : Char) : Option Nat :=
  if c.isDigit then some (c.toNat - '0'.toNat)
  else (decimalRanges.find? (·.has c)).map fun block => (c.toNat - block.first) % 10

theorem isDecimal_of_ascii {c : Char} (h : c.toNat < 128) : isDecimal c = c.isDigit := by
  simp [isDecimal, h]

theorem isDigit_of_isDecimal {c : Char} (h : isDecimal c = true) : isDigit c = true := by
  simp [isDigit, h]

/-- The digit-like characters lie beyond ASCII. -/
theorem isDigit_of_ascii {c : Char} (h : c.toNat < 128) : isDigit c = c.isDigit := by
  have beyond : ∀ range ∈ digitLikeRanges, 128 ≤ range.1 := by decide
  have none_ : digitLikeRanges.has c = false := by
    refine List.any_eq_false.mpr fun range member has => ?_
    have := beyond range member
    have := of_decide_eq_true (Bool.and_eq_true_iff.mp has).1
    omega
  rw [isDigit, none_, Bool.or_false, isDecimal_of_ascii h]

/-- A decimal digit has a value. -/
theorem decimalValue?_isSome {c : Char} (h : isDecimal c = true) : (decimalValue? c).isSome := by
  unfold isDecimal at h
  unfold decimalValue?
  split at h
  · rw [if_pos h]
    rfl
  · split
    · rfl
    · rw [Option.isSome_map, List.find?_isSome]
      exact List.any_eq_true.mp h

end QuerySignature.Text
