import QuerySignature.Json.Basic

/-!
# Json/Printer — writing JSON

`Json.printed` writes a value in a layout: on one line or indented, with every character or with ASCII
alone.  A string escapes the double quote, the backslash and the controls; six controls have letters,
the others their code in four hexadecimal digits.  In an ASCII layout a character beyond the basic
plane is written as its two UTF-16 units.
-/

namespace QuerySignature.Json

/-- **A layout**: how deep one level is indented, `none` for everything on one line, and whether only
printable ASCII is written. -/
structure Layout where
  indent : Option Nat
  ascii : Bool

/-- Everything on one line, in ASCII. -/
def Layout.line : Layout := ⟨none, true⟩

/-- Two columns a level, in ASCII. -/
def Layout.asciiPage : Layout := ⟨some 2, true⟩

/-- Two columns a level, every character as it is. -/
def Layout.page : Layout := ⟨some 2, false⟩

/-- The escape of a code unit. -/
def unitEscape (unit : Nat) : Text :=
  '\\' :: 'u' :: Text.hexadecimal 4 unit

/-- A character within a string. -/
def escapedChar (ascii : Bool) (c : Char) : Text :=
  if c = '"' then ['\\', '"']
  else if c = '\\' then ['\\', '\\']
  else if c = '\n' then ['\\', 'n']
  else if c = '\r' then ['\\', 'r']
  else if c = '\t' then ['\\', 't']
  else if c = '\x08' then ['\\', 'b']
  else if c = '\x0c' then ['\\', 'f']
  else if c.toNat < 0x20 then unitEscape c.toNat
  else if ascii && 0x10000 ≤ c.toNat then
    unitEscape (0xD800 + (c.toNat - 0x10000) / 0x400)
      ++ unitEscape (0xDC00 + (c.toNat - 0x10000) % 0x400)
  else if ascii && 0x7F ≤ c.toNat then unitEscape c.toNat
  else [c]

/-- A string in its quotes, in front of what follows. -/
def stringOnto (layout : Layout) (text rest : Text) : Text :=
  '"' :: text.foldr (fun c tail => escapedChar layout.ascii c ++ tail) ('"' :: rest)

/-- The break before an item at a depth, in front of what follows. -/
def breakOnto (layout : Layout) (depth : Nat) (rest : Text) : Text :=
  match layout.indent with
  | none => rest
  | some width => '\n' :: List.replicate (width * depth) ' ' ++ rest

/-- The mark between a key and its value. -/
def keyMark (layout : Layout) (rest : Text) : Text :=
  if layout.indent.isSome then ':' :: ' ' :: rest else ':' :: rest

mutual

/-- The value at a depth, in front of what follows. -/
def onto (layout : Layout) (depth : Nat) : Json → Text → Text
  | null, rest => "null".toList ++ rest
  | bool true, rest => "true".toList ++ rest
  | bool false, rest => "false".toList ++ rest
  | int value, rest => Text.ofInt value ++ rest
  | float value, rest => value.written "NaN".toList "Infinity".toList ++ rest
  | string text, rest => stringOnto layout text rest
  | array [], rest => '[' :: ']' :: rest
  | array (item :: items), rest =>
    '[' :: breakOnto layout (depth + 1)
      (onto layout (depth + 1) item
        (itemsOnto layout (depth + 1) items (breakOnto layout depth (']' :: rest))))
  | object [], rest => '\x7b' :: '\x7d' :: rest
  | object ((key, value) :: fields), rest =>
    '\x7b' :: breakOnto layout (depth + 1)
      (stringOnto layout key (keyMark layout (onto layout (depth + 1) value
        (fieldsOnto layout (depth + 1) fields (breakOnto layout depth ('\x7d' :: rest))))))

/-- Further items of an array, in front of what follows. -/
def itemsOnto (layout : Layout) (depth : Nat) : List Json → Text → Text
  | [], rest => rest
  | item :: items, rest =>
    ',' :: breakOnto layout depth (onto layout depth item (itemsOnto layout depth items rest))

/-- Further members of an object, in front of what follows. -/
def fieldsOnto (layout : Layout) (depth : Nat) : List (Text × Json) → Text → Text
  | [], rest => rest
  | (key, value) :: fields, rest =>
    ',' :: breakOnto layout depth
      (stringOnto layout key (keyMark layout (onto layout depth value
        (fieldsOnto layout depth fields rest))))

end

/-- **The text of a value** in a layout. -/
def printed (layout : Layout) (value : Json) : Text :=
  onto layout 0 value []

end QuerySignature.Json
