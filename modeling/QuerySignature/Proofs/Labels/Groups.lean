import QuerySignature.Proofs.Labels.Terms
import QuerySignature.Proofs.Reading.Groups
import QuerySignature.Proofs.Signs.Shielded

/-!
# Proofs/Labels/Groups — labels in expressions, modifiers and groups

An expression takes any token, a label as well as an operator, and then the reading that has only the operator ends for
want of the closing bracket.  Elsewhere in a group a label that is not left stands in triples: it is what the first of
them starts with, or a term in them.  So what can be read inside any bracket shows the roles of labels (`inside`).
-/

namespace QuerySignature

open Probe

namespace Probe.Alien

variable {probe : Probe}

/-- **A label is no name of a function.** -/
theorem isCallable : probe.Alien Reader.isCallable :=
  .or (.and (.isKind (by decide) (by decide))) .isResource

/-- The keyword of a pattern is alien. -/
theorem startsPattern : probe.Alien Reader.startsPattern :=
  .or (.isSymbol (by decide)) (.spells _)

/-- The digits of a limit are alien. -/
theorem isDigits : probe.Alien Reader.isDigits :=
  .and (.isKind (by decide) (by decide))

end Probe.Alien

namespace Reader

variable {α β : Type} {probe : Probe} {depth : Option Inside} {named : Bool} {P : α → Prop} {R : Reader α}

/-- A property told may be weakened. -/
theorem Tells.mono {Q : α → Prop} (h : Tells probe P R) (imp : ∀ {a}, P a → Q a) : Tells probe Q R := by
  intro front behind rest a read
  refine (h front read).imp_right fun halted => ?_
  generalize R.read (front ++ [probe.operator]) = reading at halted
  cases halted with
  | stops role rest => exact .stops role rest
  | takes holds => exact .takes (imp holds)

/-- A reader that shows the roles of labels tells of them. -/
theorem Shows.tells (h : Shows probe R) : Tells probe P R :=
  h.mono fun never => never.elim

namespace Shows

/-! ## Expressions -/

/-- The tokens that are taken do not tell the operator from the label that is left. -/
theorem taking (h : Shows probe R) : Shows probe (Reader.taking R) := by
  intro front behind rest pair read
  obtain ⟨taken, a⟩ := pair
  obtain ⟨innerRead, whole⟩ := taking_done read
  rcases h front innerRead with ⟨between, rfl, passed⟩ | halted
  · obtain ⟨first, same⟩ := exists_taken innerRead
    rw [← List.append_assoc] at same
    obtain rfl := List.append_cancel_right same
    have gone_ (behind : List Token) : gone ((first ++ between) ++ behind) (between ++ behind) = first := by
      rw [List.append_assoc, gone_append]
    refine .inl ⟨between, rfl, ?_⟩
    rw [done_taking passed, gone_, whole, gone_]
  · right
    generalize read' : R.read (front ++ [probe.operator]) = reading at halted
    cases halted with
    | stops role rest =>
      rw [taking_stopped.mpr read']
      exact .stops role rest
    | takes never => exact never.elim

section Depth

variable (hd : DepthShows probe depth)
include hd

/-- A group shows what can be read inside its brackets. -/
theorem group : Shows probe (Reader.group depth) :=
  bind (symbol (by decide)) fun _ => enter fun _ deeper => bind (hd _ deeper).content fun _ =>
    bind (close (by decide)) fun _ => pure

theorem existsTest : Shows probe (Reader.existsTest depth) :=
  map (taking (bind (accept (.spells _)) fun _ => bind word fun _ => group hd))

end Depth

/-- Any token is taken. -/
theorem any_tells {expected : Expected} :
    Tells probe (fun _ => True) (Reader.require expected fun _ => true) := by
  intro front behind rest token read
  obtain ⟨whole, -⟩ := require_done.mp read
  cases front with
  | nil => exact .inr (.takes trivial)
  | cons first front =>
    obtain ⟨rfl, rfl⟩ := List.cons.inj whole
    exact .inl ⟨front, rfl, require_done.mpr ⟨rfl, rfl⟩⟩

section Depth

variable (hd : DepthShows probe depth)
include hd

/-- **A piece of an expression takes a label**, as it takes an operator. -/
theorem piece : Tells probe (fun _ => True) (Reader.piece depth) :=
  either (nextTwo (.spells _) (.isSymbol (by decide))) (existsTest hd).tells <| open? (.isSymbol (by decide))
    (fun _ _ deeper => .bind (hd _ deeper).brackets fun _ => (map (shut (.isSymbol (by decide)))).tells)
    (.map any_tells fun _ => trivial)

/-- Brackets take a label among their tokens, and the operator as well. -/
theorem brackets : Shows probe (Reader.brackets depth) := by
  have closes : probe.Alien isCloser := .isSymbol (by decide)
  exact map (many_of_tells (.choice (.pure nofun) Progress.piece.of_first)
    (either (next closes.same) pure (.map (piece hd) fun _ => rfl)) (.stops .word []))

theorem outerPiece : Tells probe Found (Reader.outerPiece depth named) := by
  have ends : probe.Alien fun token => token.isSymbol [")"] || (named && token.spells ["AS"]) := by
    refine .or (.isSymbol (by decide)) ⟨?_, ?_⟩
    · rw [(Alien.spells _).label, Bool.and_false]
    · rw [(Alien.spells _).operator, Bool.and_false]
  exact ifNext ends pure (ifNext (.isSymbol (by decide)) refuse (.map (piece hd) fun _ => rfl))

theorem expression : Shows probe (Reader.expression depth named) :=
  map (many_of_tells .outerPiece (outerPiece hd) (.stops .word []))

theorem someExpression : Shows probe (Reader.someExpression depth named) :=
  bind (expression hd) fun _ => by
    split
    · exact refuse
    · exact pure

theorem functionCall : Shows probe (Reader.functionCall depth) :=
  bind (require .isCallable) fun _ => bind (symbol (by decide)) fun _ => bind (expression hd) fun _ =>
    bind (symbol (by decide)) fun _ => pure

omit hd in
theorem startsCall : Shows probe Reader.startsCall := nextTwo .isCallable (.isSymbol (by decide))

omit hd in
theorem startsConstraint : Shows probe Reader.startsConstraint := by
  have starts : probe.Alien fun token => token.isSymbol ["("] || token.spells ["EXISTS", "NOT"] :=
    .or (.isSymbol (by decide)) (.spells _)
  exact bind (next starts.same) fun starts => by
    cases starts
    · exact map startsCall
    · exact pure

theorem constraint : Shows probe (Reader.constraint depth) :=
  ifAccept (.isSymbol (by decide)) (bind (someExpression hd) fun _ => bind (symbol (by decide)) fun _ => pure) <|
    ifNext (.spells _) (map (existsTest hd)) (either startsCall (functionCall hd) refuse)

theorem namedExpression : Shows probe (Reader.namedExpression depth) :=
  bind (someExpression hd) fun _ => bind word fun _ => bind variableName fun _ => bind (symbol (by decide)) fun _ => pure

/-! ## Selections and modifiers -/

theorem projection? : Shows probe (Reader.projection? depth) :=
  orElse (.isKind (by decide) (by decide)) (fun _ => pure)
    (ifAccept (.isSymbol (by decide)) (bind (namedExpression hd) fun _ => pure) pure)

omit hd in
theorem within {region : Region} (h : Shows probe R) : Shows probe (Reader.within region R) := h

theorem selection : Shows probe (Reader.selection depth) :=
  bind word fun _ => bind (ifAccept (.spells _) pure (ifAccept (.spells _) pure pure)) fun _ =>
    ifAccept (.isSymbol (by decide)) pure (bind (many .projection? (within (projection? hd))) fun _ => by
      split
      · exact refuse
      · exact pure)

theorem groupCondition? : Shows probe (Reader.groupCondition? depth) :=
  orElse (.isKind (by decide) (by decide)) (fun _ => pure) <| ifAccept (.isSymbol (by decide))
    (bind (expression hd) fun _ => ifAccept (.spells _)
      (bind (require (.isKind (by decide) (by decide))) fun _ => bind (symbol (by decide)) fun _ => pure)
      (bind (symbol (by decide)) fun _ => pure))
    (either startsCall (map (functionCall hd)) pure)

theorem constraint? : Shows probe (Reader.constraint? depth) :=
  either startsConstraint (map (constraint hd)) pure

theorem orderKey? : Shows probe (Reader.orderKey? depth) :=
  orElse (.spells _)
    (fun _ => bind (symbol (by decide)) fun _ => bind (expression hd) fun _ => bind (symbol (by decide)) fun _ => pure) <|
    orElse (.isKind (by decide) (by decide)) (fun _ => pure) (either startsConstraint (map (constraint hd)) pure)

omit hd in
/-- A clause shows the role of a label if its items do. -/
theorem clause {keyword : Reader Bool} {missing : Expected} {item : Reader (Option α)} (first : Shows probe keyword)
    (progress : Progress Found item) (h : Shows probe item) : Shows probe (Reader.clause keyword missing item) :=
  either first
    (bind (many progress h) fun _ => by
      split
      · exact refuse
      · exact pure)
    pure

omit hd in
theorem keywordBy (keyword : String) : Shows probe (Reader.keywordBy keyword) :=
  ifAccept (.spells _) (bind word fun _ => pure) pure

omit hd in
theorem slice? (keyword : String) : Shows probe (Reader.slice? keyword) :=
  orElse (.spells _) (fun _ => bind (require .isDigits) fun _ => by
    split
    · exact pure
    · exact stop) pure

omit hd in
theorem slices : Shows probe Reader.slices :=
  bind (slice? _) fun
    | some _ => map (slice? _)
    | none => bind (slice? _) fun
      | some _ => map (slice? _)
      | none => pure

theorem modifiers : Shows probe (Reader.modifiers depth) :=
  bind (clause (keywordBy _) .groupCondition? (groupCondition? hd)) fun _ =>
    bind (clause (accept (.spells _)) .constraint? (constraint? hd)) fun _ =>
      bind (clause (keywordBy _) .orderKey? (orderKey? hd)) fun _ => bind slices fun _ => pure

/-! ## Groups -/

theorem whereGroup : Shows probe (Reader.whereGroup depth) :=
  bind (accept (.spells _)) fun _ => group hd

theorem subSelect : Shows probe (Reader.subSelect depth) :=
  bind (selection hd) fun _ => bind (whereGroup hd) fun _ => bind (modifiers hd) fun _ => map values?

theorem alternatives : Shows probe (Reader.alternatives depth) :=
  bind (group hd) fun _ => bind (many (.orElse' (.pure nofun)) (ifItem (.spells _) (group hd))) fun others => by
    cases others <;> exact pure

theorem pattern : Shows probe (Reader.pattern depth) :=
  ifNext (.isSymbol (by decide)) (alternatives hd) <| ifAccept (.spells _) (map (group hd)) <|
    ifAccept (.spells _) (map (group hd)) <| ifAccept (.spells _) (bind target fun _ => map (group hd)) <|
    ifAccept (.spells _) (bind (accept (.spells _)) fun _ => bind target fun _ => map (group hd)) <|
    ifAccept (.spells _) (map (constraint hd)) <|
    ifAccept (.spells _) (bind (symbol (by decide)) fun _ => bind (namedExpression hd) fun _ => pure) (map values)

omit hd in
/-- Behind another token a label makes no difference to whether a node starts. -/
theorem startsNode_behind (token : Token) (front : List Token) :
    TellsAt probe (fun _ => False) Reader.startsNode (token :: front) := by
  refine .bind (P := fun _ => False) (fun behind rest starts read => ?_) (fun {starts between} _ => ?_)
    fun never => never.elim
  · obtain ⟨holds, rfl⟩ := next_done.mp read
    exact .inl ⟨_, rfl, next_done.mpr ⟨holds, rfl⟩⟩
  · split
    · exact pure between
    · exact nextTwo (.isSymbol (by decide)) .isNumeric between

/-- **Triples may start with a label**; with an operator nothing starts. -/
theorem elements : Shows probe (Reader.elements depth) := by
  have starts (between : List Token) : TellsAt probe (fun _ => False) (do
      if ← Reader.startsNode then
        let list := (← Reader.triples depth).map Element.triple
        if ← Reader.accept (·.isSymbol ["."]) then return .more list
        else if ← Reader.next Reader.startsPattern then return .more list
        else return .last list
      else Reader.refuse (if (← Reader.peek).isSome then .patternElement else .symbol "\x7d") :
        Reader (Turn (List Element))) between := by
    cases between with
    | nil =>
      intro behind rest turned _
      have none_ : Reader.startsNode.read [probe.operator] = .done false [probe.operator] := by
        have not_bracket : probe.operator.isSymbol ["[", "("] = false :=
          Token.isSymbol_apart probe.isOperator (by decide)
        have other : (isAtom probe.operator || probe.operator.isSymbol ["[", "("]) = false := by
          rw [not_isAtom_operator, not_bracket, Bool.or_self]
        exact bind_done.mpr ⟨false, _, next_done.mpr ⟨other, rfl⟩, congrArg (Reading.done · _) (Bool.and_false _)⟩
      right
      rw [List.nil_append, bind_read, none_]
      exact .stops .subject [probe.operator]
    | cons token front =>
      refine .bind (startsNode_behind token front) (fun {starts between} _ => ?_) fun never => never.elim
      split
      · refine bind (triples hd) (fun _ => ?_) between
        exact ifAccept (.isSymbol (by decide)) pure (ifNext .startsPattern pure pure)
      · exact fun _ _ _ read => by
          obtain ⟨_, _, -, refused⟩ := bind_done.mp read
          exact (refuse_done.mp refused).elim
  exact ifNext (.isSymbol (by decide)) pure (ifNext .startsPattern
    (bind (pattern hd) fun _ => bind (accept (.isSymbol (by decide))) fun _ => pure) starts)

theorem content : Shows probe (Reader.content depth) :=
  ifNext (.spells _) (map (subSelect hd)) (map (loop (.elements nofun) (elements hd)))

end Depth

/-- **What can be read inside a bracket shows the roles of labels**, however many brackets may be open within it. -/
theorem inside (probe : Probe) (brackets : Nat) : DepthShows probe (Reader.inside brackets) := by
  induction brackets with
  | zero => exact nofun
  | succ brackets ih =>
    rintro inner same
    obtain rfl := Option.some.inj same
    exact ⟨path ih, node ih, .node, properties ih, Shows.brackets ih, content ih⟩

end Shows

end Reader

end QuerySignature
