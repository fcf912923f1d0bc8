import QuerySignature.Reading.Term

/-!
# Reading/Values — inline data blocks

A block declares one variable, and its rows are cells; or it declares variables in brackets, and its rows
are in brackets too, each as long as the header.  The span of a block runs from its keyword to one past its
closing brace.
-/

namespace QuerySignature.Reader

/-- A row of one cell. -/
def shortRow : Reader (List Cell) :=
  return [← cell]

/-- A row in brackets, which must have the length of the header. -/
def longRow (width : Nat) : Reader (List Cell) := do
  let opening ← symbol "("
  let row ← manyUntil (·.isSymbol [")"]) cell
  let _ ← symbol ")"
  if row.length = width then return row else stop (.rowLength width row.length opening)

/-- Variables one after the other, by name. -/
def names : Reader (List Text) :=
  many do
    match ← accept? (·.kind = .var) with
    | some token => return some token.name
    | none => return none

/-- The variables that a block declares, and how its rows are written. -/
def valuesHeader : Reader (List Text × Reader (List Cell)) := do
  match ← accept? (·.kind = .var) with
  | some token => return ([token.name], shortRow)
  | none =>
    if ← accept (·.isSymbol ["("]) then
      let names ← names
      let _ ← symbol ")"
      return (names, longRow names.length)
    else refuse .valuesHeader

/-- The content of an inline data block. -/
def valuesContent : Reader Values := do
  let keyword ← word ["VALUES"]
  let (vars, row) ← valuesHeader
  let _ ← symbol "\x7b"
  let rows ← manyUntil (·.isSymbol ["\x7d"]) row
  let closing ← symbol "\x7d"
  return ⟨vars, rows, ⟨keyword.position.offset, closing.stop⟩⟩

/-! ## What a block is written by -/

/-- A row of one cell is written by its tokens. -/
theorem shortRow_writes : Writes IsShortRow shortRow := by
  intro tokens row rest read
  obtain ⟨found, between, cellRead, same⟩ := bind_done.mp read
  obtain ⟨rfl, rfl⟩ := pure_done.mp same
  obtain ⟨taken, whole, writes⟩ := cell_writes cellRead
  exact ⟨taken, whole, .cell writes⟩

/-- A row in brackets is written by its tokens. -/
theorem longRow_writes (width : Nat) : Writes (IsRow width) (longRow width) := by
  intro tokens row rest read
  obtain ⟨opening, _, opens, inner⟩ := bind_done.mp read
  obtain ⟨rfl, isOpening⟩ := require_done.mp opens
  obtain ⟨cells, _, cellsRead, behind⟩ := bind_done.mp inner
  obtain ⟨taken, rfl, sequence⟩ := manyUntil_writes cell_writes cellsRead
  obtain ⟨closing, _, closes, fits⟩ := bind_done.mp behind
  obtain ⟨rfl, isClosing⟩ := require_done.mp closes
  split at fits
  · next long =>
    obtain ⟨rfl, rfl⟩ := pure_done.mp fits
    refine ⟨opening :: (taken ++ [closing]), ?_, .cells isOpening sequence isClosing long⟩
    rw [List.cons_append, List.append_assoc]
    rfl
  · exact (stop_done.mp fits).elim

/-- A name is written by its variable. -/
def IsName (taken : List Token) (name : Text) : Prop :=
  ∃ var, taken = [var] ∧ var.kind = .var ∧ name = var.name

theorem isName_sequence {taken : List Token} {names : List Text} (h : IsSequence IsName taken names) :
    (∀ var ∈ taken, var.kind = .var) ∧ names = taken.map Token.name := by
  induction h with
  | nil => exact ⟨fun _ member => (nomatch member), rfl⟩
  | cons first _ ih =>
    obtain ⟨var, rfl, isVar, rfl⟩ := first
    obtain ⟨areVars, same⟩ := ih
    refine ⟨List.forall_mem_cons.mpr ⟨isVar, areVars⟩, ?_⟩
    rw [same]
    rfl

/-- Declared names are written by their variables. -/
theorem names_writes : Writes (IsSequence IsName) names := by
  refine many_writes (fun read => ?_) fun read => ?_
  · obtain ⟨_ | var, between, accepted, gives⟩ := bind_done.mp read
    · obtain ⟨rfl, rfl⟩ := pure_done.mp gives
      exact ⟨[], (accept?_none.mp accepted).1, fun _ same => nomatch same⟩
    · obtain ⟨rfl, isVar⟩ := accept?_some.mp accepted
      obtain ⟨rfl, rfl⟩ := pure_done.mp gives
      refine ⟨[var], rfl, fun name same => ?_⟩
      exact ⟨var, rfl, of_decide_eq_true isVar, (Option.some.inj same).symm⟩
  · obtain ⟨_ | var, between, accepted, gives⟩ := bind_done.mp read
    · obtain ⟨-, rfl⟩ := pure_done.mp gives
      exact (accept?_none.mp accepted).1
    · cases (pure_done.mp gives).1

/-- **A header is one variable, or variables in brackets**, and says how rows are read. -/
theorem valuesHeader_done {tokens rest : List Token} {vars : List Text} {row : Reader (List Cell)}
    (read : valuesHeader.read tokens = .done (vars, row) rest) :
    (∃ var, tokens = var :: rest ∧ var.kind = .var ∧ vars = [var.name] ∧ row = shortRow) ∨
      ∃ left declared right, tokens = left :: (declared ++ right :: rest) ∧ left.isSymbol ["("] = true ∧
        (∀ var ∈ declared, var.kind = .var) ∧ right.isSymbol [")"] = true ∧
        vars = declared.map Token.name ∧ row = longRow declared.length := by
  obtain ⟨_ | var, between, accepted, behind⟩ := bind_done.mp read
  case some =>
    obtain ⟨rfl, isVar⟩ := accept?_some.mp accepted
    obtain ⟨same, rfl⟩ := pure_done.mp behind
    obtain ⟨rfl, rfl⟩ := Prod.mk.inj same
    exact .inl ⟨var, rfl, of_decide_eq_true isVar, rfl, rfl⟩
  obtain ⟨rfl, -⟩ := accept?_none.mp accepted
  obtain ⟨_ | _, between, opens, inner⟩ := bind_done.mp behind
  · exact (refuse_done.mp inner).elim
  · obtain ⟨left, rfl, isLeft⟩ := accept_true.mp opens
    obtain ⟨found, between', namesRead, behind⟩ := bind_done.mp inner
    obtain ⟨declared, rfl, sequence⟩ := names_writes namesRead
    obtain ⟨areVars, rfl⟩ := isName_sequence sequence
    obtain ⟨right, between, closes, gives⟩ := bind_done.mp behind
    obtain ⟨rfl, isRight⟩ := require_done.mp closes
    obtain ⟨same, rfl⟩ := pure_done.mp gives
    obtain ⟨rfl, rfl⟩ := Prod.mk.inj same
    rw [List.length_map]
    exact .inr ⟨left, declared, right, rfl, isLeft, areVars, isRight, rfl, rfl⟩

/-- **A block is written by its tokens.** -/
theorem valuesContent_writes : Writes IsBlock valuesContent := by
  intro tokens block rest read
  obtain ⟨keyword, _, starts, afterKeyword⟩ := bind_done.mp read
  obtain ⟨rfl, isKeyword⟩ := require_done.mp starts
  obtain ⟨⟨vars, row⟩, _, header, afterHeader⟩ := bind_done.mp afterKeyword
  obtain ⟨opening, _, opens, afterOpening⟩ := bind_done.mp afterHeader
  obtain ⟨rfl, isOpening⟩ := require_done.mp opens
  obtain ⟨rows, _, rowsRead, afterRows⟩ := bind_done.mp afterOpening
  obtain ⟨closing, _, closes, gives⟩ := bind_done.mp afterRows
  obtain ⟨rfl, isClosing⟩ := require_done.mp closes
  obtain ⟨rfl, rfl⟩ := pure_done.mp gives
  rcases valuesHeader_done header with
    ⟨var, rfl, isVar, rfl, rfl⟩ | ⟨left, declared, right, rfl, isLeft, areVars, isRight, rfl, rfl⟩
  · obtain ⟨taken, rfl, sequence⟩ := manyUntil_writes shortRow_writes rowsRead
    refine ⟨_, ?_, .short isKeyword isVar isOpening sequence isClosing⟩
    simp
  · obtain ⟨taken, rfl, sequence⟩ := manyUntil_writes (longRow_writes declared.length) rowsRead
    refine ⟨_, ?_, .long isKeyword isLeft areVars isRight isOpening sequence isClosing⟩
    simp

/-! ## Blocks as steps -/

/-- **Reads an inline data block**, in one step. -/
def values : Reader Values :=
  asBlock valuesContent valuesContent_writes

/-- Reads an inline data block if one comes next. -/
def values? : Reader (Option Values) := do
  if ← next (·.spells ["VALUES"]) then return some (← values) else return none

end QuerySignature.Reader
