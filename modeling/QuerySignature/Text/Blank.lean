import QuerySignature.Text.Basic

/-!
# Text/Blank — white space

`isBlank` is the Unicode white space that may stand between two tokens: beside the space and the
controls U+0009 to U+000D it holds the separators U+001C to U+001F, the next-line control and the
spaces of the other blocks.
-/

namespace QuerySignature.Text

/-- The white space characters (Unicode 14.0). -/
def blankRanges : Ranges :=
  [(0x9, 0xD), (0x1C, 0x20), (0x85, 0x85), (0xA0, 0xA0), (0x1680, 0x1680), (0x2000, 0x200A),
   (0x2028, 0x2029), (0x202F, 0x202F), (0x205F, 0x205F), (0x3000, 0x3000)]

/-- **White space.** -/
def isBlank (c : Char) : Bool :=
  blankRanges.has c

end QuerySignature.Text
