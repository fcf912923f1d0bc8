import QuerySignature.Query.Literal
import QuerySignature.Reading.Inversion

/-!
# Reading/Term — terms of one or two tokens

A resource is an IRI or a name under a namespace; the label of a blank node has the same kind of token as
such a name, and only `term` takes it.  A number may have a sign in front, which is a token of its own.
-/

namespace QuerySignature.Reader

/-- **Reads a resource.** -/
def resource : Reader Resource :=
  return (← require .iri Token.isResource).resource

/-- Reads an IRI in angle brackets. -/
def iri : Reader Text :=
  return Literal.unwrapped (← require .iri (·.kind = .iri)).text

/-- **Reads a variable or a resource.** -/
def target : Reader Target := do
  match ← accept? (·.kind = .var) with
  | some token => return .var token.name
  | none => return .resource (← resource)

/-- Reads a number behind a sign, if there is one. -/
def signedNumber? : Reader (Option Literal) := do
  match ← acceptTwo? (·.isSymbol ["+", "-"]) Token.isNumeric with
  | some (sign, number) => return some (← valued (Literal.read sign.text number.text))
  | none => return none

/-- The token is a term by itself. -/
def isAtom (token : Token) : Bool :=
  token.kind = .var || token.kind = .iri || token.kind = .prefixedName || token.kind = .literal

/-- The node that an atom is. -/
def atom (token : Token) : Reader Node :=
  match token.kind with
  | .var => return .var token.name
  | .prefixedName =>
    if token.hasBlankMark then return .blank (some (token.text.drop 2))
    else return .resource token.resource
  | .literal => return .literal (← valued (Literal.read [] token.text))
  | _ => return .resource token.resource

/-- **Reads a term**: a variable, a resource, a blank node label, or a literal. -/
def term : Reader Node := do
  match ← accept? isAtom with
  | some token => atom token
  | none =>
    match ← signedNumber? with
    | some number => return .literal number
    | none => refuse .term

/-- **Reads a cell** of an inline data block. -/
def cell : Reader Cell := do
  match ← accept? (·.spells ["UNDEF"]) with
  | some _ => return .undef
  | none =>
    match ← accept? Token.isResource with
    | some token => return .resource token.resource
    | none =>
      match ← accept? (·.kind = .literal) with
      | some token => return .literal (← valued (Literal.read [] token.text))
      | none =>
        match ← signedNumber? with
        | some number => return .literal number
        | none => refuse .dataValue

theorem signedNumber?_done {tokens rest : List Token} {found : Option Literal}
    (read : signedNumber?.read tokens = .done found rest) :
    (∀ value, found = some value → ∃ sign number, tokens = sign :: number :: rest ∧
      sign.isSymbol ["+", "-"] = true ∧ number.isNumeric = true ∧
      Literal.read sign.text number.text = .ok value) ∧ (found = none → tokens = rest) := by
  obtain ⟨_ | ⟨sign, number⟩, between, accepted, read⟩ := bind_done.mp read
  · obtain ⟨rfl, rfl⟩ := pure_done.mp read
    exact ⟨fun _ same => (nomatch same), fun _ => acceptTwo?_none accepted⟩
  · obtain ⟨whole, isSign, isNumber⟩ := acceptTwo?_some.mp accepted
    obtain ⟨value, between, valued, read⟩ := bind_done.mp read
    obtain ⟨reads, rfl⟩ := valued_done.mp valued
    obtain ⟨rfl, rfl⟩ := pure_done.mp read
    refine ⟨fun _ same => ?_, fun same => nomatch same⟩
    obtain rfl := Option.some.inj same
    exact ⟨sign, number, whole, isSign, isNumber, reads⟩

/-- **A cell is written by its tokens.** -/
theorem cell_writes : Writes IsCell cell := by
  intro tokens found rest read
  obtain ⟨_ | word, between, accepted, notUndef⟩ := bind_done.mp read
  case some =>
    obtain ⟨rfl, spells⟩ := accept?_some.mp accepted
    obtain ⟨rfl, rfl⟩ := pure_done.mp notUndef
    exact ⟨[word], rfl, .undef spells⟩
  obtain ⟨rfl, -⟩ := accept?_none.mp accepted
  obtain ⟨_ | name, between, accepted, notResource⟩ := bind_done.mp notUndef
  case some =>
    obtain ⟨rfl, names⟩ := accept?_some.mp accepted
    obtain ⟨rfl, rfl⟩ := pure_done.mp notResource
    exact ⟨[name], rfl, .resource names⟩
  obtain ⟨rfl, -⟩ := accept?_none.mp accepted
  obtain ⟨_ | token, between, accepted, notLiteral⟩ := bind_done.mp notResource
  case some =>
    obtain ⟨rfl, isLiteral⟩ := accept?_some.mp accepted
    obtain ⟨value, between, hasValue, gives⟩ := bind_done.mp notLiteral
    obtain ⟨reads, rfl⟩ := valued_done.mp hasValue
    obtain ⟨rfl, rfl⟩ := pure_done.mp gives
    exact ⟨[token], rfl, .literal (of_decide_eq_true isLiteral) reads⟩
  obtain ⟨rfl, -⟩ := accept?_none.mp accepted
  obtain ⟨_ | number, between, signed, gives⟩ := bind_done.mp notLiteral
  case none => exact (refuse_done.mp gives).elim
  obtain ⟨sign, digits, rfl, isSign, isNumber, reads⟩ := (signedNumber?_done signed).1 number rfl
  obtain ⟨rfl, rfl⟩ := pure_done.mp gives
  exact ⟨[sign, digits], rfl, .signed isSign isNumber reads⟩

end QuerySignature.Reader
