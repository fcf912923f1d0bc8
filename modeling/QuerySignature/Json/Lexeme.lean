import QuerySignature.Json.Basic
import QuerySignature.Text.Hexadecimal

/-!
# Json/Lexeme — the words of a JSON text

`Json.lexemes` cuts a text into the marks, strings, numbers and names of JSON, skipping the four white
space characters.  What is none of these becomes the lexeme `stray`, so the cutting never fails: the
reader meets the stray piece where it stands.  A string decodes its escapes; two surrogate escapes that
form a pair are one character.
-/

namespace QuerySignature.Json

/-- **A word of a JSON text.** -/
inductive Lexeme where
  | openArray
  | closeArray
  | openObject
  | closeObject
  | comma
  | colon
  | name (text : Text)
  | string (units : List Nat)
  | whole (negative : Bool) (digits : Text)
  | fractional (negative : Bool) (digits : Text) (exponent : Int)
  | stray

/-- The character that a one-letter escape stands for. -/
def escapeLetter? : Char → Option Nat
  | '"' => some '"'.toNat
  | '\\' => some '\\'.toNat
  | '/' => some '/'.toNat
  | 'b' => some 8
  | 'f' => some 12
  | 'n' => some 10
  | 'r' => some 13
  | 't' => some 9
  | _ => none

/-- The code units of a string up to its closing quote, and what follows the quote. -/
def stringUnits : Text → List Nat → Option (List Nat × Text)
  | [], _ => none
  | '"' :: rest, units => some (units.reverse, rest)
  | '\\' :: 'u' :: a :: b :: c :: d :: rest, units =>
    match Text.hexNumber? [a, b, c, d] with
    | some unit => stringUnits rest (unit :: units)
    | none => none
  | '\\' :: c :: rest, units =>
    match escapeLetter? c with
    | some unit => stringUnits rest (unit :: units)
    | none => none
  | c :: rest, units =>
    if c.toNat < 0x20 ∨ c = '\\' then none else stringUnits rest (c.toNat :: units)

/-- The unit is the first half of a pair. -/
def isHighSurrogate (unit : Nat) : Bool := 0xD800 ≤ unit && unit ≤ 0xDBFF

/-- The unit is the second half of a pair. -/
def isLowSurrogate (unit : Nat) : Bool := 0xDC00 ≤ unit && unit ≤ 0xDFFF

/-- The characters of a string, pairs of surrogates joined.  A surrogate without its partner is
refused, or replaced by U+FFFD where `unpaired` admits it. -/
def unitsText (unpaired : Bool) : List Nat → Text → Option Text
  | [], text => some text.reverse
  | [unit], text =>
    if isHighSurrogate unit || isLowSurrogate unit then
      if unpaired then some ('\uFFFD' :: text).reverse else none
    else some (Char.ofNat unit :: text).reverse
  | high :: low :: rest, text =>
    if isHighSurrogate high && isLowSurrogate low then
      unitsText unpaired rest
        (Char.ofNat (0x10000 + (high - 0xD800) * 0x400 + (low - 0xDC00)) :: text)
    else if isHighSurrogate high || isLowSurrogate high then
      if unpaired then unitsText unpaired (low :: rest) ('\uFFFD' :: text) else none
    else unitsText unpaired (low :: rest) (Char.ofNat high :: text)

/-- The value of ASCII decimal digits. -/
def wholeNumber (digits : Text) : Nat :=
  digits.foldl (fun value c => 10 * value + (c.toNat - '0'.toNat)) 0

/-- A number after its sign: a whole part without leading zeros, then a fraction and an exponent if
digits follow their marks. -/
def number (negative : Bool) (cs : Text) : Option (Lexeme × Text) :=
  let whole := match cs with
    | '0' :: _ => ['0']
    | _ => cs.takeWhile Char.isDigit
  if whole.isEmpty then none else
  let rest := cs.drop whole.length
  let (fraction, rest) := match rest with
    | '.' :: tail =>
      let digits := tail.takeWhile Char.isDigit
      if digits.isEmpty then ([], rest) else (digits, tail.drop digits.length)
    | _ => ([], rest)
  let (exponent, rest) : Option Int × Text := match rest with
    | mark :: tail =>
      if mark = 'e' ∨ mark = 'E' then
        let (sign, tail) : Int × Text := match tail with
          | '-' :: t => (-1, t)
          | '+' :: t => (1, t)
          | t => (1, t)
        let digits := tail.takeWhile Char.isDigit
        if digits.isEmpty then (none, rest)
        else (some (sign * (wholeNumber digits)),
          tail.drop digits.length)
      else (none, rest)
    | [] => (none, rest)
  if fraction.isEmpty && exponent.isNone then some (.whole negative whole, rest)
  else some (.fractional negative (whole ++ fraction) (exponent.getD 0 - fraction.length), rest)

/-- The word at the start of a text, and what follows it. -/
def lexeme (c : Char) (rest : Text) : Lexeme × Text :=
  match c with
  | '[' => (.openArray, rest)
  | ']' => (.closeArray, rest)
  | '\x7b' => (.openObject, rest)
  | '\x7d' => (.closeObject, rest)
  | ',' => (.comma, rest)
  | ':' => (.colon, rest)
  | '"' =>
    match stringUnits rest [] with
    | some (units, rest) => (.string units, rest)
    | none => (.stray, [])
  | '-' =>
    if "Infinity".toList.isPrefixOf rest then (.name "-Infinity".toList, rest.drop 8)
    else (number true rest).getD (.stray, [])
  | _ =>
    if c.isDigit then (number false (c :: rest)).getD (.stray, [])
    else
      let word := (c :: rest).takeWhile Char.isAlpha
      if word.isEmpty then (.stray, []) else (.name word, (c :: rest).drop word.length)

/-- The white space of JSON. -/
def isSpace (c : Char) : Bool :=
  c == ' ' || c == '\t' || c == '\n' || c == '\r'

/-- The words found, in reverse, and those still to come; the fuel bounds the number of words. -/
def lexemesFrom : Nat → Text → List Lexeme → List Lexeme
  | 0, _, found => found.reverse
  | fuel + 1, text, found =>
    match text.dropWhile isSpace with
    | [] => found.reverse
    | c :: rest =>
      let (word, rest) := lexeme c rest
      lexemesFrom fuel rest (word :: found)

/-- **The words of a text**, in order. -/
def lexemes (text : Text) : List Lexeme :=
  lexemesFrom text.length text []

end QuerySignature.Json
