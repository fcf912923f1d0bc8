import QuerySignature.Binding.Document
import QuerySignature.Signature.Blocks
import QuerySignature.Token.Lexeme

/-!
# Binding/Render — bindings as cells of a block

`renderBinding` writes the value that a variable is bound to as one cell.  A value that stands for nothing
leaves the variable open, sometimes with a warning; a blank node, and an IRI or a language tag that would not
stay inside one cell, are errors, and so is an integer that is too long to be written.  `renderBlock` writes a
block anew: its rows but the open ones, then one row for each row of bindings.
-/

namespace QuerySignature

/-- **A binding that no cell can hold.**  A language is kept as the wording shows it. -/
inductive BindingError where
  | blankNode (name : Text)
  | invalidIri (name iri : Text)
  | invalidLanguage (name language : Text)

/-- The wording of an error. -/
def BindingError.message : BindingError → Text
  | blankNode name => "Illegal binding type in VALUES: 'bnode' for variable ".toList ++ name
  | invalidIri name iri =>
    "Invalid IRI for variable ".toList ++ name ++ ": ".toList ++ Text.quoted iri
  | invalidLanguage name language =>
    "Invalid language tag for variable ".toList ++ name ++ ": ".toList ++ language

/-- **Why a binding is not written.** -/
inductive RenderingFault where
  /-- No cell can hold it. -/
  | refused (error : BindingError)
  /-- An integer in it has more digits than are written. -/
  | longInteger

/-- **Writing with warnings**: the warnings so far are kept, and a fault ends the writing. -/
abbrev Rendering (α : Type) := StateT (List Warning) (Except RenderingFault) α

namespace Rendering

/-- Adds a warning. -/
def warn (warning : Warning) : Rendering Unit :=
  modify (· ++ [warning])

/-- Refuses a binding. -/
def refuse (error : BindingError) : Rendering α :=
  throw (.refused error)

/-- The text of a value, if it has one: an integer may be too long to be written. -/
def textOf : Option Text → Rendering Text
  | some text => return text
  | none => throw .longInteger

end Rendering

/-- A character inside double quotes. -/
def escapedInString (c : Char) : Text :=
  match c with
  | '\\' => ['\\', '\\']
  | '"' => ['\\', '"']
  | '\n' => ['\\', 'n']
  | '\r' => ['\\', 'r']
  | '\t' => ['\\', 't']
  | c => [c]

/-- A text in double quotes. -/
def renderString (text : Text) : Text :=
  '"' :: text.flatMap escapedInString ++ ['"']

/-- The text is a language tag. -/
def isLanguageTag (text : Text) : Bool :=
  Lexeme.languageTag text == some text.length

/-- An IRI in angle brackets. -/
def renderIri (name iri : Text) : Rendering Text :=
  if iri.all Lexeme.isIriChar then return '<' :: iri ++ ['>']
  else Rendering.refuse (.invalidIri name iri)

/-- The value under a key, unless it stands for nothing. -/
def Json.getSome? (key : String) (value : Json) : Option Json :=
  (value.get? key.toList).filter (!·.isEmptyValue)

/-- A string with its language or its datatype. -/
def renderLiteral (name : Text) (binding value : Json) : Rendering Text := do
  let string := renderString (← Rendering.textOf value.asText?)
  match binding.getSome? "xml:lang" with
  | some language =>
    let tag ← Rendering.textOf language.asText?
    if isLanguageTag tag then return string ++ '@' :: tag
    else Rendering.refuse (.invalidLanguage name (← Rendering.textOf language.shown?))
  | none =>
    match binding.getSome? "datatype" with
    | some datatype => return string ++ '^' :: '^' :: (← renderIri name (← Rendering.textOf datatype.asText?))
    | none => return string

/-- The cell that leaves a variable open. -/
def openCell : Text := Cell.undef.written

/-- The open cell for a binding of another type, with a warning. -/
def renderUntyped (name : Text) (type : Json) : Rendering Text := do
  Rendering.warn (.unsupportedType (← Rendering.textOf type.asText?) name)
  return openCell

/-- The cell of a binding that has a value, by its type. -/
def renderTyped (name : Text) (binding value : Json) : Rendering Text := do
  let type := (binding.get? "type".toList).getD .null
  match type.text? with
  | none => renderUntyped name type
  | some word =>
    if word = "uri".toList then renderIri name (← Rendering.textOf value.asText?)
    else if word = "literal".toList ∨ word = "typed-literal".toList then renderLiteral name binding value
    else renderUntyped name type

/-- **The cell of a binding**, `none` if the variable has no binding. -/
def renderBinding (name : Text) (binding : Option Json) : Rendering Text := do
  match binding.filter (!·.isEmptyValue) with
  | none => return openCell
  | some binding =>
    if binding.fields?.isNone then
      Rendering.warn (.unsupportedBinding name (← Rendering.textOf binding.shown?))
      return openCell
    else if (binding.get? "type".toList).bind Json.text? = some "bnode".toList then
      Rendering.refuse (.blankNode name)
    else
      match binding.get? "value".toList with
      | some .null | none =>
        Rendering.warn (.noValue name)
        return openCell
      | some value => renderTyped name binding value

/-- The cells of a row of bindings, one for each variable of the header. -/
def renderRow (vars : List Text) (row : Row) : Rendering (List Text) :=
  vars.mapM fun name => renderBinding name (Json.lookup name row)

/-- The cells of the rows that a block keeps. -/
def keptRows (block : Values) : List (List Text) :=
  (block.rows.filter (!isOpenRow ·)).map (·.map Cell.written)

/-- A block from its header and the cells of its rows.  With one variable neither stands in brackets. -/
def writtenBlock (vars : List Text) (rows : List (List Text)) : Text :=
  let space := [' ']
  match vars with
  | [name] =>
    "VALUES ?".toList ++ name ++ " \x7b ".toList ++ Text.joined space rows.flatten ++ " \x7d".toList
  | names =>
    let row (cells : List Text) := '(' :: Text.joined space cells ++ [')']
    "VALUES ".toList ++ row (names.map ('?' :: ·)) ++ " \x7b ".toList
      ++ Text.joined space (rows.map row) ++ " \x7d".toList

/-- **The block written anew** with rows of bindings in place of its open rows. -/
def renderBlock (block : Values) (rows : List Row) : Rendering Text :=
  return writtenBlock block.vars (keptRows block ++ (← rows.mapM (renderRow block.vars)))

end QuerySignature
