import QuerySignature.Proofs.Bounded.Rules

/-!
# Proofs/Bounded/Readers — operations and selections end in front of a mark

A semicolon ends an operation, and a closing brace a selection: what comes behind the group of either is read as
it is at the end of the tokens.  What stands inside brackets is limited only, and the bracket that closes it is
the token that it needs to leave.
-/

namespace QuerySignature

variable {mark : Token}

/-! ## The mark -/

/-- A mark that ends a run is a symbol. -/
theorem Token.kind_of_endMark (ends : mark.isSymbol endMarks = true) : mark.kind = .punctuation :=
  Reader.kind_of_isSymbol ends

/-- A symbol among the marks is one of them. -/
theorem Token.isSymbol_endMarks {symbol : String} (among : symbol ∈ endMarks) (h : mark.isSymbol [symbol] = true) :
    mark.isSymbol endMarks = true := by
  obtain ⟨text, is, member⟩ := (Option.any_eq_true _ _).mp h
  obtain rfl := List.mem_singleton.mp (List.contains_iff_mem.mp member)
  unfold Token.isSymbol Token.isPunctuation
  rw [is]
  exact List.contains_iff_mem.mpr (List.mem_map_of_mem among)

/-- Such a mark is no keyword. -/
theorem Token.not_spells_of_endMark (ends : mark.isSymbol endMarks = true) (words : List String) :
    mark.spells words = false := by
  unfold Token.spells Token.isKeyword Token.word?
  rw [kind_of_endMark ends]
  rfl

/-- It is of no other kind. -/
theorem Token.not_isKind_of_endMark (ends : mark.isSymbol endMarks = true) {kind : Token.Kind}
    (other : kind ≠ .punctuation) : decide (mark.kind = kind) = false :=
  decide_eq_false fun same => other (same.symm.trans (kind_of_endMark ends))

/-- It names no resource. -/
theorem Token.not_isResource_of_endMark (ends : mark.isSymbol endMarks = true) : mark.isResource = false := by
  unfold Token.isResource Token.isPrefixedName
  rw [not_isKind_of_endMark ends (by decide), not_isKind_of_endMark ends (by decide)]
  rfl

/-- It names no function. -/
theorem Reader.not_isCallable_of_endMark (ends : mark.isSymbol endMarks = true) : isCallable mark = false := by
  unfold isCallable
  rw [Token.not_isKind_of_endMark ends (by decide), Token.not_isResource_of_endMark ends]
  rfl

namespace Reader

variable {depth : Option Inside}

/-! ## Groups -/

/-- A group needs its brace. -/
theorem Needs.group : Needs (Reader.group depth) := Needs.require.bind

/-- A group needs its brace, with or without the keyword. -/
theorem Needs.whereGroup : Needs (Reader.whereGroup depth) := .andThen fun _ => .group

/-- What stands inside a bracket is limited. -/
theorem Limited.content (ends : mark.isSymbol endMarks = true) {inner : Inside}
    (tracks : InsideTracks .same inner inner) : Limited mark inner.content :=
  .of_tracks ends tracks.content (Group.eq_of_like Likeness.same_exact _ _)

namespace Bounded

/-- What stands inside a bracket, if one more may be open. -/
theorem enter {β : Type} {bracket : Token} {N : Inside → Reader β}
    (inside : ∀ inner, depth = some inner → Bounded mark (N inner)) :
    Bounded mark (Reader.enter depth bracket >>= N) := by
  intro tokens rest b more read
  cases depth with
  | none => cases read
  | some inner => exact inside inner rfl more read

section Groups

variable (ends : mark.isSymbol endMarks = true) (hd : DepthTracks Likeness.same.lenient depth depth)
include ends hd

/-- A group ends with its own brace, whatever stands behind it. -/
theorem group : Bounded mark (Reader.group depth) :=
  bind require fun brace => enter fun inner opens => by
    subst opens
    exact before (Limited.content ends (hd .same rfl)) (fun _ => Needs.bind Needs.require.bind) fun _ =>
      bind (bind require fun _ => bind shift fun _ => .pure) fun _ => .pure

/-- A template ends with its brace. -/
theorem template : Bounded mark (Reader.template depth) := within (group ends hd)

/-- The keyword in front of a group does not look at the mark. -/
theorem whereGroup : Bounded mark (Reader.whereGroup depth) :=
  bind (accept (Token.not_spells_of_endMark ends _)) fun _ => group ends hd

end Groups

/-! ## Operations -/

/-- A resource is one token. -/
theorem resource : Bounded mark Reader.resource := bind require fun _ => .pure

section Operations

variable (ends : mark.isSymbol endMarks = true)
include ends

/-- A keyword is accepted in front of the mark, and the mark is none. -/
theorem accept_spells (words : List String) : Bounded mark (Reader.accept (·.spells words)) :=
  accept (Token.not_spells_of_endMark ends words)

/-- A graph ends with its name. -/
theorem graphOrDefault : Bounded mark Reader.graphOrDefault :=
  either (accept_spells ends _) .pure (bind (accept_spells ends _) fun _ => bind resource fun _ => .pure)

/-- An operation on whole graphs ends with the last of them. -/
theorem manage (management : Management) : Bounded mark (Reader.manage management) := by
  refine bind (accept_spells ends _) fun _ => ?_
  have clears : Bounded mark (do
      if ← Reader.accept (·.spells ["GRAPH"]) then
        let _ ← Reader.resource
      else
        let _ ← word ["DEFAULT", "NAMED", "ALL"]
      return Operation.manage management) :=
    either (accept_spells ends _) (bind resource fun _ => .pure) (bind require fun _ => .pure)
  have copies : Bounded mark (do
      Reader.graphOrDefault
      let _ ← word ["TO"]
      Reader.graphOrDefault
      return Operation.manage management) :=
    bind (graphOrDefault ends) fun _ => bind require fun _ => bind (graphOrDefault ends) fun _ => .pure
  cases management with
  | load =>
    exact bind resource fun _ => either (accept_spells ends _)
      (bind require fun _ => bind resource fun _ => .pure) .pure
  | clear => exact clears
  | drop => exact clears
  | create => exact bind require fun _ => bind resource fun _ => .pure
  | add => exact copies
  | move => exact copies
  | copy => exact copies

variable (hd : DepthTracks Likeness.same.lenient depth depth)
include hd

/-- **An operation ends with its group**, in front of the mark. -/
theorem modify (deleted inserted : Option Group) : Bounded mark (Reader.modify depth deleted inserted) :=
  bind
    (many
      (either (accept_spells ends _)
        (bind (accept_spells ends _) fun _ => found resource) .pure)
      (.orElse' (.pure nofun)))
    fun _ => bind require fun _ => bind (group ends hd) fun _ => .pure

/-- The data of an operation end with their brace. -/
theorem deleteInsert : Bounded mark (Reader.deleteInsert depth) :=
  bind (template ends hd) fun deleted => either (accept_spells ends _)
    (bind (template ends hd).found fun inserted => modify ends hd (some deleted) inserted)
    (modify ends hd (some deleted) none)

/-- **An operation ends in front of a mark** as at the end of the tokens. -/
theorem operation : Bounded mark (Reader.operation depth) := by
  have insert : Bounded mark (do
      let inserted ← Reader.template depth
      Reader.modify depth none (some inserted)) :=
    bind (template ends hd) fun inserted => modify ends hd none (some inserted)
  refine option (accept? ?_) (fun token => ?_) ?_
  · have other (management : Management) : mark.spells [management.keyword] = false :=
      Token.not_spells_of_endMark ends _
    simp only [management?, other, List.find?_eq_none.mpr, Bool.false_eq_true, not_false_eq_true, implies_true,
      Option.isSome_none]
  · dsimp only
    cases management? token with
    | none => exact refuse
    | some management => exact manage ends management
  · exact either (accept_spells ends _)
      (either (accept_spells ends _) (bind (template ends hd) fun _ => .pure) insert)
      (either (accept_spells ends _)
        (either (accept_spells ends _) (bind (template ends hd) fun _ => .pure)
          (either (accept_spells ends _) (bind (group ends hd) fun _ => .pure) (deleteInsert ends hd)))
        (either (accept_spells ends _)
          (bind resource fun _ => either (accept_spells ends _) insert
            (bind require fun _ => deleteInsert ends hd))
          refuse))

end Operations

end Bounded

/-! ## Expressions -/

/-- What has been taken does not depend on what stands behind. -/
theorem gone_append_append (tokens rest more : List Token) : gone (tokens ++ more) (rest ++ more) = gone tokens rest := by
  unfold gone
  rw [List.length_append, List.length_append, Nat.add_sub_add_right, List.take_append_of_le_length (Nat.sub_le _ _)]

/-- A bounded reader is bounded with the tokens that it takes. -/
theorem Bounded.taking {α : Type} {R : Reader α} (h : Bounded mark R) : Bounded mark (taking R) := by
  intro tokens rest pair more read
  unfold Reader.taking at read ⊢
  dsimp only at read ⊢
  cases first : R.read tokens with
  | stopped fault between =>
    rw [first] at read
    cases read
  | done a between =>
    rw [first] at read
    cases read
    rw [h more first]
    exact congrArg (fun taken => Reading.done (taken, a) (rest ++ mark :: more)) (gone_append_append ..)

section Expressions

/-- A prologue ends in front of a token that declares nothing. -/
theorem Limited.prologue (ends : mark.isSymbol endMarks = true) : Limited mark Reader.prologue :=
  .of_tracks ends prologue_tracks Eq.symm

variable (ends : mark.isSymbol endMarks = true) (hd : DepthTracks Likeness.same.lenient depth depth)
include ends hd

/-- An expression leaves the bracket that closes it. -/
theorem Limited.expression (named : Bool) : Limited mark (Reader.expression depth named) :=
  .of_tracks ends (expression_tracks hd) (Expression.eq_of_like Likeness.same_exact _ _)

/-- So does one that must not be empty. -/
theorem Limited.someExpression (named : Bool) : Limited mark (Reader.someExpression depth named) :=
  .of_tracks ends (someExpression_tracks hd) (Expression.eq_of_like Likeness.same_exact _ _)

/-- A selection leaves the token that starts its group. -/
theorem Limited.selection : Limited mark (Reader.selection depth) :=
  .of_tracks ends (selection_tracks hd) (Selection.eq_of_like Likeness.same_exact _ _)

namespace Bounded

/-- A call ends with its bracket. -/
theorem functionCall : Bounded mark (Reader.functionCall depth) :=
  bind require fun _ => bind require fun _ =>
    before (Limited.expression ends hd false) (fun _ => Needs.require.bind) fun _ => bind require fun _ => .pure

/-- A test ends with the brace of its group. -/
theorem existsTest : Bounded mark (Reader.existsTest depth) := by
  have tested : Bounded mark (existsGroup depth) :=
    bind (accept_spells ends _) fun _ => bind require fun _ => group ends hd
  exact bind tested.taking fun _ => .pure

omit hd in
/-- The mark is no bracket, so it ends the look-ahead as the end does. -/
theorem startsCall : Bounded mark Reader.startsCall :=
  nextTwo (not_isCallable_of_endMark ends) (notEnding_isSymbol (by decide) mark ends)

omit hd in
/-- The mark starts no constraint. -/
theorem startsConstraint : Bounded mark Reader.startsConstraint := by
  refine bind (next ?_) fun _ => bind (startsCall ends) fun _ => .pure
  have notOpen : mark.isSymbol ["("] = false := notEnding_isSymbol (by decide) mark ends
  rw [notOpen, Token.not_spells_of_endMark ends, Bool.false_or]

/-- A constraint ends with a bracket or a brace. -/
theorem constraint : Bounded mark (Reader.constraint depth) :=
  either (accept (notEnding_isSymbol (by decide) mark ends))
    (before (Limited.someExpression ends hd false) (fun _ => Needs.require.bind) fun _ =>
      bind require fun _ => .pure)
    (either (next (Token.not_spells_of_endMark ends _)) (bind (existsTest ends hd) fun _ => .pure)
      (either (startsCall ends) (functionCall ends hd) refuse))

/-! ## Modifiers -/

/-- The mark is no condition. -/
theorem groupCondition? : Bounded mark (Reader.groupCondition? depth) := by
  refine option (accept? (Token.not_isKind_of_endMark ends (by decide))) (fun _ => .pure) ?_
  refine either (accept (notEnding_isSymbol (by decide) mark ends)) ?_
    (either (startsCall ends) (functionCall ends hd).found .pure)
  refine before (Limited.expression ends hd true) (fun _ => .andThen fun
    | true => Needs.require.bind
    | false => Needs.require.bind) fun _ => ?_
  exact either (accept_spells ends _) (bind require fun _ => bind require fun _ => .pure)
    (bind require fun _ => .pure)

/-- The mark is no constraint. -/
theorem constraint? : Bounded mark (Reader.constraint? depth) :=
  either (startsConstraint ends) (constraint ends hd).found .pure

/-- The mark is no key. -/
theorem orderKey? : Bounded mark (Reader.orderKey? depth) :=
  option (accept? (Token.not_spells_of_endMark ends _))
    (fun _ => bind require fun _ => before (Limited.expression ends hd false) (fun _ => Needs.require.bind) fun _ =>
      bind require fun _ => .pure)
    (option (accept? (Token.not_isKind_of_endMark ends (by decide))) (fun _ => .pure)
      (either (startsConstraint ends) (bind (constraint ends hd) fun _ => .pure) .pure))

omit ends hd in
/-- **A clause ends with its last item**, for the mark is none. -/
theorem clause {α : Type} {keyword : Reader Bool} {missing : Expected} {item : Reader (Option α)}
    (hk : Bounded mark keyword) (h : Bounded mark item) (progress : Progress Found item) :
    Bounded mark (Reader.clause keyword missing item) :=
  either hk (bind (many h progress) fun list => by
    split
    · exact refuse
    · exact .pure) .pure

omit hd in
/-- The mark is no keyword. -/
theorem keywordBy (keyword : String) : Bounded mark (Reader.keywordBy keyword) :=
  either (accept_spells ends _) (bind require fun _ => .pure) .pure

omit hd in
/-- A slice ends with its number. -/
theorem slice? (keyword : String) : Bounded mark (Reader.slice? keyword) :=
  option (accept? (Token.not_spells_of_endMark ends _))
    (fun _ => bind require fun _ => by
      split
      · exact .pure
      · exact stop)
    .pure

omit hd in
/-- Slices end with the last of them. -/
theorem slices : Bounded mark Reader.slices :=
  option (slice? ends _) (fun _ => bind (slice? ends _) fun _ => .pure)
    (option (slice? ends _) (fun _ => bind (slice? ends _) fun _ => .pure) .pure)

/-- **Modifiers end in front of a mark** as at the end of the tokens. -/
theorem modifiers : Bounded mark (Reader.modifiers depth) :=
  bind (clause (keywordBy ends _) (within (groupCondition? ends hd)) Progress.groupCondition?) fun _ =>
    bind (clause (accept_spells ends _) (within (constraint? ends hd)) Progress.constraint?) fun _ =>
      bind (clause (keywordBy ends _) (within (orderKey? ends hd)) Progress.orderKey?) fun _ =>
        bind (slices ends) fun _ => .pure

omit ends hd in
/-- A block ends with its brace, whatever follows. -/
theorem values : Bounded mark Reader.values := by
  intro tokens rest block more read
  obtain ⟨taken, rfl, writes⟩ := valuesContent_writes read
  rw [List.append_assoc]
  exact valuesContent_back writes

omit hd in
/-- The mark does not start a block. -/
theorem values? : Bounded mark Reader.values? :=
  either (next (Token.not_spells_of_endMark ends _)) values.found .pure

/-! ## Selections -/

/-- **A selection inside a group ends in front of a mark** as at the end of the tokens. -/
theorem subSelect : Bounded mark (Reader.subSelect depth) :=
  before (Limited.selection ends hd) (fun _ => Needs.whereGroup.bind) fun _ =>
    bind (whereGroup ends hd) fun _ => bind (modifiers ends hd) fun _ => bind (values? ends) fun _ => .pure

end Bounded

end Expressions

end Reader

end QuerySignature
