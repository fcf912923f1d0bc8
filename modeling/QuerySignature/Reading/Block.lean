import QuerySignature.Query.Literal
import QuerySignature.Query.Pattern

/-!
# Reading/Block — the grammar of inline data

A block declares one variable, and its rows are cells; or it declares variables in brackets, and its rows
are in brackets too, each as long as the header.  The span of a block runs from its keyword to one past its
closing brace.  `IsBlock` relates the tokens of a block to what they write.
-/

namespace QuerySignature

/-- The resource that a token names. -/
def Token.resource (token : Token) : Resource :=
  if token.kind = .iri then .iri (Literal.unwrapped token.text)
  else .prefixed (token.text.takeWhile (· != ':')) ((token.text.dropWhile (· != ':')).drop 1)

/-- **Tokens write a cell**: a word, a resource, a literal, or a number behind its sign. -/
inductive IsCell : List Token → Cell → Prop where
  | undef {word : Token} : word.spells ["UNDEF"] = true → IsCell [word] .undef
  | resource {name : Token} : name.isResource = true → IsCell [name] (.resource name.resource)
  | literal {token : Token} {value : Literal} : token.kind = .literal →
      Literal.read [] token.text = .ok value → IsCell [token] (.literal value)
  | signed {sign number : Token} {value : Literal} : sign.isSymbol ["+", "-"] = true →
      number.isNumeric = true → Literal.read sign.text number.text = .ok value →
      IsCell [sign, number] (.literal value)

/-- Tokens write items one after the other. -/
inductive IsSequence (item : List Token → α → Prop) : List Token → List α → Prop where
  | nil : IsSequence item [] []
  | cons {first others : List Token} {a : α} {list : List α} : item first a →
      IsSequence item others list → IsSequence item (first ++ others) (a :: list)

/-- Tokens write a row in brackets. -/
inductive IsRow (width : Nat) : List Token → List Cell → Prop where
  | cells {opening closing : Token} {tokens : List Token} {row : List Cell} :
      opening.isSymbol ["("] = true → IsSequence IsCell tokens row → closing.isSymbol [")"] = true →
      row.length = width → IsRow width (opening :: (tokens ++ [closing])) row

/-- Tokens write a row of one cell. -/
inductive IsShortRow : List Token → List Cell → Prop where
  | cell {tokens : List Token} {cell : Cell} : IsCell tokens cell → IsShortRow tokens [cell]

/-- **Tokens write an inline data block**, from its keyword to its closing brace. -/
inductive IsBlock : List Token → Values → Prop where
  | short {keyword var opening closing : Token} {tokens : List Token} {rows : List (List Cell)} :
      keyword.spells ["VALUES"] = true → var.kind = .var → opening.isSymbol ["\x7b"] = true →
      IsSequence IsShortRow tokens rows → closing.isSymbol ["\x7d"] = true →
      IsBlock (keyword :: var :: opening :: (tokens ++ [closing]))
        ⟨[var.name], rows, ⟨keyword.position.offset, closing.stop⟩⟩
  | long {keyword left right opening closing : Token} {vars tokens : List Token} {rows : List (List Cell)} :
      keyword.spells ["VALUES"] = true → left.isSymbol ["("] = true → (∀ var ∈ vars, var.kind = .var) →
      right.isSymbol [")"] = true → opening.isSymbol ["\x7b"] = true →
      IsSequence (IsRow vars.length) tokens rows → closing.isSymbol ["\x7d"] = true →
      IsBlock (keyword :: left :: (vars ++ right :: opening :: (tokens ++ [closing])))
        ⟨vars.map Token.name, rows, ⟨keyword.position.offset, closing.stop⟩⟩

end QuerySignature
