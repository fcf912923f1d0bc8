import QuerySignature.Text.Quoted
import QuerySignature.Text.Upper

/-!
# Token/Basic — tokens and their places

A `Token` is a piece of a query text with its kind and its place.  The reader of queries looks at a token
through three views only: its kind, the word it spells (`word?`, upper-cased, except that the one-letter
keyword `a` keeps its case) and the symbol it is (`symbol?`).  Positions count lines by line feeds
(`Position.next`).
-/

namespace QuerySignature

/-- **A place**: in a text, the line and column count from one and the offset from zero, all in characters.
A token that is not cut from a text may stand anywhere, so the three are integers. -/
structure Position where
  line : Int
  column : Int
  offset : Int
  deriving DecidableEq, Repr

namespace Position

/-- The start of a text. -/
def start : Position := ⟨1, 1, 0⟩

/-- The place after a character. -/
def next (place : Position) (c : Char) : Position :=
  if c = '\n' then ⟨place.line + 1, 1, place.offset + 1⟩
  else ⟨place.line, place.column + 1, place.offset + 1⟩

/-- The place after a text. -/
def after (place : Position) (text : Text) : Position :=
  text.foldl next place

@[simp]
theorem after_nil (place : Position) : place.after [] = place := rfl

@[simp]
theorem after_cons (place : Position) (c : Char) (text : Text) :
    place.after (c :: text) = (place.next c).after text := rfl

theorem after_append (place : Position) (s t : Text) :
    place.after (s ++ t) = (place.after s).after t := by
  simp [after]

@[simp]
theorem next_offset (place : Position) (c : Char) : (place.next c).offset = place.offset + 1 := by
  unfold next
  split <;> rfl

theorem after_offset (place : Position) (text : Text) :
    (place.after text).offset = place.offset + text.length := by
  induction text generalizing place with
  | nil => simp
  | cons c text ih => rw [after_cons, ih, next_offset, List.length_cons]; omega

end Position

/-- **The kinds of tokens.** -/
inductive Token.Kind where
  | keyword
  | var
  | iri
  | prefixedName
  | literal
  | punctuation
  | eof
  deriving DecidableEq, Repr

/-- **A token**: its kind, its text as written, and where it starts. -/
structure Token where
  kind : Token.Kind
  text : Text
  position : Position
  deriving DecidableEq, Repr

namespace Token

/-- The offset one past the last character. -/
def stop (token : Token) : Int :=
  token.position.offset + token.text.length

/-- **The word a keyword spells**: its upper case, but `a` alone is itself. -/
def word? (token : Token) : Option Text :=
  if token.kind = .keyword then
    some (if token.text = ['a'] then ['a'] else Text.upper token.text)
  else none

/-- **The symbol a punctuation token is.** -/
def symbol? (token : Token) : Option Text :=
  if token.kind = .punctuation then some token.text else none

/-- The token is a keyword that spells one of the words. -/
def isKeyword (token : Token) (words : List Text) : Bool :=
  token.word?.any words.contains

/-- The token is one of the symbols. -/
def isPunctuation (token : Token) (symbols : List Text) : Bool :=
  token.symbol?.any symbols.contains

/-- The token spells one of the words. -/
def spells (token : Token) (words : List String) : Bool :=
  token.isKeyword (words.map String.toList)

/-- The token is one of the symbols. -/
def isSymbol (token : Token) (symbols : List String) : Bool :=
  token.isPunctuation (symbols.map String.toList)

/-- The token as a message names it. -/
def described (token : Token) : Text :=
  if token.kind = .eof then "end of input".toList else Text.quoted token.text

/-- The text starts like the label of a blank node. -/
def hasBlankMark (token : Token) : Bool :=
  ['_', ':'].isPrefixOf token.text

/-- The token is a name under a namespace, not the label of a blank node. -/
def isPrefixedName (token : Token) : Bool :=
  token.kind = .prefixedName && !token.hasBlankMark

/-- The token names a resource: an IRI, or a name under a namespace. -/
def isResource (token : Token) : Bool :=
  token.kind = .iri || token.isPrefixedName

/-- The token is a literal that starts like a number. -/
def isNumeric (token : Token) : Bool :=
  token.kind = .literal && token.text.head?.all "0123456789.".toList.contains

/-- The name of a variable, without its mark. -/
def name (token : Token) : Text :=
  token.text.drop 1

end Token

end QuerySignature
