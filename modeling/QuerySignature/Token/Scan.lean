import QuerySignature.Error
import QuerySignature.Limits
import QuerySignature.Token.Lexeme

/-!
# Token/Scan — cutting a text into tokens

`tokenize` walks over a text once.  At each place it passes white space one character at a time, and
otherwise takes the first class of lexemes that fits (`Scan.lexeme?`): comments and IRIs, strings, names,
numbers, truth values, words, symbols.  A comment gives no token.  A place where nothing fits, or where an
IRI opens that never closes, is a lexical error; a token beyond the ceiling is an error of its own.
-/

namespace QuerySignature

namespace Scan

/-- **What stands at a place**: a comment, an IRI that never closes, or a token of some kind. -/
inductive Class where
  | comment
  | openIri
  | token (kind : Token.Kind)
  deriving DecidableEq

/-- **The lexeme at the start of a text**, with its length: the first class in this order that fits.
`before` is the character in front of it. -/
def lexeme? (before : Option Char) (text : Text) : Option (Class × Nat) :=
  let kind (kind : Token.Kind) (length : Option Nat) := length.map fun n => (Class.token kind, n)
  ((Lexeme.comment text).map (.comment, ·)).or <|
  (kind .iri (Lexeme.iri text)).or <|
  (if Lexeme.opensIri text then some (.openIri, 1) else none).or <|
  (kind .literal (Lexeme.quotedLiteral text)).or <|
  (kind .prefixedName (Lexeme.blankLabel text)).or <|
  (kind .prefixedName (Lexeme.prefixedName text)).or <|
  (kind .var (Lexeme.var text)).or <|
  (kind .literal (Lexeme.number text)).or <|
  (kind .literal (Lexeme.truthValue before text)).or <|
  (kind .keyword (Lexeme.bareWord text)).or <|
  kind .punctuation (Lexeme.symbol text)

/-- **A place in a text that is being cut**: the character before it, its position, and what follows. -/
structure Cursor where
  before : Option Char
  position : Position
  rest : Text

/-- The start of a text. -/
def Cursor.ofText (text : Text) : Cursor := ⟨none, .start, text⟩

/-- The next `n` characters. -/
def Cursor.slice (cursor : Cursor) (n : Nat) : Text := cursor.rest.take n

/-- The place `n` characters further. -/
def Cursor.skip (cursor : Cursor) (n : Nat) : Cursor where
  before := (cursor.slice n).getLast?.or cursor.before
  position := cursor.position.after (cursor.slice n)
  rest := cursor.rest.drop n

/-- The fault of a character at which no lexeme starts. -/
def strayFault (c : Char) : LexicalFault :=
  if c = '"' ∨ c = '\'' then .unterminatedString else .unexpected c

/-- The tokens found so far, in reverse, then those from a place on.  `room` is how many tokens may still
be added, and every step passes a character, so `fuel` need not exceed the length of the rest. -/
def tokensFrom (limits : Limits) :
    (fuel : Nat) → Cursor → (room : Nat) → List Token → Except ParseError (List Token)
  | 0, cursor, _, found => .ok (⟨.eof, [], cursor.position⟩ :: found).reverse
  | fuel + 1, cursor, room, found =>
    match cursor.rest with
    | [] => .ok (⟨.eof, [], cursor.position⟩ :: found).reverse
    | c :: _ =>
      if Text.isBlank c then tokensFrom limits fuel (cursor.skip 1) room found else
      match lexeme? cursor.before cursor.rest with
      | none => .error (.lexical (strayFault c) cursor.position)
      | some (.comment, n) => tokensFrom limits fuel (cursor.skip n) room found
      | some (.openIri, _) => .error (.lexical .unterminatedIri cursor.position)
      | some (.token kind, n) =>
        match room with
        | 0 => .error (.ceiling .tokenCount (limits.maxTokens + 1) limits.maxTokens cursor.position)
        | room + 1 =>
          tokensFrom limits fuel (cursor.skip n) room
            (⟨kind, cursor.slice n, cursor.position⟩ :: found)

end Scan

/-- **The tokens of a text**, ended by the token of kind `eof`. -/
def tokenize (limits : Limits) (text : Text) : Except ParseError (List Token) :=
  if limits.maxInputLength < text.length then
    .error (.ceiling .inputLength text.length limits.maxInputLength none)
  else Scan.tokensFrom limits text.length (.ofText text) limits.maxTokens []

end QuerySignature
