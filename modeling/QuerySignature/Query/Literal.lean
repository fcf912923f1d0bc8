import QuerySignature.Error
import QuerySignature.Query.Term
import QuerySignature.Text.Hexadecimal

/-!
# Query/Literal — the value of a literal

`Literal.read` takes the text of a literal apart.  A quoted text splits at the last closing mark behind
which nothing, a language tag or a datatype stands (`Literal.split?`), and its body is decoded by
`Literal.decoded`.  Any other text is a truth value or a number, told apart by the marks in it.
-/

namespace QuerySignature.Literal

/-- The namespace of the standard datatypes. -/
def datatypes : Text := "http://www.w3.org/2001/XMLSchema#".toList

/-! ## Escapes -/

/-- A number as a code point. -/
def codePoint (code : Nat) : Except Unreadable Nat :=
  if code ≤ 0x10FFFF then .ok code else .error (.escapeRange code)

/-- The code point that a backslash and a character stand for: five letters name controls, any other
character is itself. -/
def escaped (c : Char) : Nat :=
  match c with
  | 't' => 9
  | 'n' => 10
  | 'r' => 13
  | 'b' => 8
  | 'f' => 12
  | c => c.toNat

/-- The code points of a body behind those already decoded, which are in reverse. -/
def decodedFrom : Text → List Nat → Except Unreadable (List Nat)
  | [], codes => .ok codes.reverse
  | '\\' :: 'u' :: a :: b :: c :: d :: rest, codes =>
    match Text.hexNumber? [a, b, c, d] with
    | some code => decodedFrom rest (code :: codes)
    | none => .error (.escapeDigits 'u')
  | '\\' :: 'U' :: a :: b :: c :: d :: e :: f :: g :: h :: rest, codes =>
    match Text.hexNumber? [a, b, c, d, e, f, g, h] with
    | some code =>
      match codePoint code with
      | .ok code => decodedFrom rest (code :: codes)
      | .error fault => .error fault
    | none => .error (.escapeDigits 'U')
  | '\\' :: c :: rest, codes =>
    if c = 'u' ∨ c = 'U' then .error (.escapeDigits c) else decodedFrom rest (escaped c :: codes)
  | c :: rest, codes => decodedFrom rest (c.toNat :: codes)

/-- **The code points of a body**, its escapes decoded one by one. -/
def decoded (body : Text) : Except Unreadable (List Nat) :=
  decodedFrom body []

/-! ## Quoted literals -/

/-- What stands behind the closing mark. -/
inductive Annotation where
  | none
  | language (tag : Text)
  | datatype (name : Text)
  deriving DecidableEq, Repr

/-- A character of a language tag. -/
def isTagChar (c : Char) : Bool :=
  c.isAlphanum || c == '-'

/-- Nothing is left but perhaps a line feed at the very end. -/
def isAtEnd (text : Text) : Bool :=
  text.isEmpty || text == ['\n']

/-- The annotation that a text is, if it is one. -/
def annotation? (text : Text) : Option Annotation :=
  match text with
  | '@' :: rest =>
    let tag := rest.takeWhile isTagChar
    if !tag.isEmpty && isAtEnd (rest.drop tag.length) then some (.language tag) else none
  | '^' :: '^' :: c :: rest => some (.datatype (c :: rest))
  | rest => if isAtEnd rest then some .none else none

/-- The split of a body at its last closing mark: `passed` is the text before, in reverse, and `best` the
last split found so far. -/
def lastSplit (mark : Text) : Text → (passed : Text) → Option (Text × Annotation) →
    Option (Text × Annotation)
  | [], _, best => best
  | c :: rest, passed, best =>
    let here := if mark.isPrefixOf (c :: rest) then
        (annotation? ((c :: rest).drop mark.length)).map (passed.reverse, ·)
      else none
    lastSplit mark rest (c :: passed) (here.or best)

/-- The quotation marks, the long ones first. -/
def marks : List Text :=
  ["\"\"\"", "'''", "\"", "'"].map String.toList

/-- **A quoted text split** into its body and its annotation: by the first mark with which it starts and
which closes it. -/
def split? (text : Text) : Option (Text × Annotation) :=
  marks.findSome? fun mark =>
    if mark.isPrefixOf text then lastSplit mark (text.drop mark.length) [] none else none

/-- A text without its first and its last character. -/
def unwrapped (text : Text) : Text :=
  (text.drop 1).dropLast

/-- The datatype of an annotation, without the brackets of an IRI. -/
def Annotation.datatype? : Annotation → Option Text
  | datatype name => some (if name.head? = some '<' then unwrapped name else name)
  | _ => Option.none

/-- The language of an annotation. -/
def Annotation.language? : Annotation → Option Text
  | language tag => some tag
  | _ => Option.none

/-! ## All literals -/

/-- The literal of a text that is not quoted: a truth value, or a number behind its sign. -/
def unquoted (sign text : Text) : Literal :=
  let lowered := text.map Char.toLower
  if lowered = "true".toList ∨ lowered = "false".toList then
    ⟨text, lowered.map Char.toNat, none, some (datatypes ++ "boolean".toList)⟩
  else
    let datatype :=
      if lowered.contains 'e' then "double".toList
      else if text.contains '.' then "decimal".toList
      else "integer".toList
    ⟨sign ++ text, (sign ++ text).map Char.toNat, none, some (datatypes ++ datatype)⟩

/-- **The literal that a text writes**, behind a sign if there is one. -/
def read (sign text : Text) : Except Unreadable Literal :=
  match split? text with
  | some (body, annotation) => do
    return ⟨text, ← decoded body, annotation.language?, annotation.datatype?⟩
  | none => .ok (unquoted sign text)

end QuerySignature.Literal
