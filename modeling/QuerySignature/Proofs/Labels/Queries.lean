import QuerySignature.Proofs.Labels.Groups
import QuerySignature.Proofs.Outcome.Causal

/-!
# Proofs/Labels/Queries — where a query may have the label of a blank node

    … { _:b  ex:p  _:c , ( _:d ) }     FILTER ( … _:e … )     DESCRIBE … _:f …
        subject    term     term                word             (the exception)

Where a label stands in a query, it is a term of triples, or one of the tokens of an expression, or it is described
(`parseTokens_label`).  No graph, dataset, service, function, namespace, verb or cell is named by a label.  A description
takes labels because it takes names of all kinds, and does not look at their marks as other rules do
(`label_described`).
-/

namespace QuerySignature

open Probe

/-! ## Descriptions -/

/-- The token can be described. -/
def Token.isDescribable (token : Token) : Bool :=
  token.kind = .var || token.kind = .iri || token.kind = .prefixedName

/-- The tokens can be described. -/
def Token.AreDescribable (names : List Token) : Prop :=
  ∀ name ∈ names, name.isDescribable = true

/-- **Names behind `DESCRIBE`.** -/
inductive Token.AreDescribed : List Token → Prop where
  | names {keyword : Token} {names : List Token} : keyword.spells ["DESCRIBE"] = true → AreDescribable names →
      AreDescribed (keyword :: names)

/-- What is described stands behind its keyword. -/
theorem Token.AreDescribed.describes {keyword : Token} {names : List Token} (h : AreDescribed (keyword :: names)) :
    keyword.spells ["DESCRIBE"] = true := by
  cases h with
  | names describes _ => exact describes

namespace Reader

variable {α β : Type} {probe : Probe} {depth : Option Inside} {R : Reader α} {N : α → Reader β}
  {E G : List Token → Prop} {F : α → List Token → Prop}

/-- **The reader shows in which role a label stands**, unless the tokens in front of it make an exception. -/
def ShowsBut (probe : Probe) (E : List Token → Prop) (R : Reader α) : Prop :=
  ∀ front, E front ∨ TellsAt probe (fun _ => False) R front

/-- What shows every label shows it apart from an exception too. -/
theorem Shows.but (h : Shows probe R) : ShowsBut probe E R :=
  fun front => .inr (h front)

namespace ShowsBut

/-- **One reader after the other**, and the exceptions of both. -/
theorem bind (first : ShowsBut probe E R) (next : ∀ a, ShowsBut probe (F a) (N a)) (here : ∀ {front}, E front → G front)
    (onward : ∀ {front between a}, R.read (front ++ [probe.operator]) = .done a (between ++ [probe.operator]) →
      F a between → G front) : ShowsBut probe G (R >>= N) := by
  intro front
  refine or_iff_not_imp_left.mpr fun other => ?_
  refine .bind ((first front).resolve_left fun exception => other (here exception)) (fun {a between} read => ?_)
    fun never => never.elim
  exact (next a between).resolve_left fun exception => other (onward read exception)

/-- A reader that shows roles, and one that makes exceptions. -/
theorem andThen (first : Shows probe R) (next : ∀ a, ShowsBut probe (F a) (N a))
    (onward : ∀ {front between a}, R.read (front ++ [probe.operator]) = .done a (between ++ [probe.operator]) →
      F a between → G front) : ShowsBut probe G (R >>= N) :=
  bind (E := fun _ => False) (Shows.but first) next (fun never => never.elim) onward

/-- A reader that makes exceptions, and one that shows roles. -/
theorem before (first : ShowsBut probe E R) (next : ∀ a, Shows probe (N a)) : ShowsBut probe E (R >>= N) :=
  bind (F := fun _ _ => False) first (fun a => Shows.but (next a)) id fun _ never => never.elim

/-- A choice by the next token. -/
theorem ifNext {p : Token → Bool} {M : Bool → Reader β} (alien : probe.Alien p) (yes : ShowsBut probe E (M true))
    (no : ShowsBut probe E (M false)) : ShowsBut probe E (Reader.next p >>= M) := by
  refine andThen (F := fun _ => E) (.next alien.same) (Bool.forall_bool.mpr ⟨no, yes⟩) fun read exception => ?_
  obtain ⟨-, same⟩ := next_done.mp read
  rwa [List.append_cancel_right same]

/-! ### Names that are described -/

/-- Names up to the label, or a label that is left. -/
theorem names : ShowsBut probe Token.AreDescribable
    (Reader.many (accept? Token.isDescribable)) := by
  intro front
  induction front with
  | nil => exact .inl (List.forall_mem_nil _)
  | cons token front ih =>
    refine or_iff_not_imp_left.mpr fun other behind rest list read => ?_
    rw [Token.AreDescribable, List.forall_mem_cons] at other
    rw [many_unroll .accept?] at read
    rw [Leaves, many_unroll .accept?]
    refine TellsAt.bind (P := fun _ => False) (Shows.accept?_behind token front) (fun {found between} accepted => ?_)
      (fun never => never.elim) read
    cases found with
    | none => exact Shows.pure between
    | some name =>
      obtain ⟨whole, holds⟩ := accept?_some.mp accepted
      obtain ⟨rfl, same⟩ := List.cons.inj whole
      obtain rfl := List.append_cancel_right same
      have further := ih.resolve_left fun names => other ⟨holds, names⟩
      exact .bind further (fun _ => Shows.pure _) fun never => never.elim

/-- **What is described is no label**, unless names stand in front of it only. -/
theorem described : ShowsBut probe Token.AreDescribable Reader.described := by
  have unstarred : ShowsBut probe Token.AreDescribable (do
      let list ← Reader.many (accept? Token.isDescribable)
      if list.isEmpty then refuse .describedResource) :=
    before names fun list => by
      split
      · exact .refuse
      · exact .pure
  refine andThen (F := fun starred front => starred = false ∧ Token.AreDescribable front)
    (.accept (.isSymbol (by decide)))
    (Bool.forall_bool.mpr ⟨fun front => (unstarred front).imp_left (⟨rfl, ·⟩), Shows.but .pure⟩) fun read exception => ?_
  obtain ⟨rfl, names⟩ := exception
  obtain ⟨same, -⟩ := accept_false.mp read
  rwa [List.append_cancel_right same]

end ShowsBut

/-! ## Prologues and datasets -/

namespace Shows

/-- A choice by whether a token is left, which the label is, and the operator too. -/
theorem ifLeft {P : β → Prop} {M : Bool → Reader β} (h : Tells probe P (M true)) :
    Tells probe P (Reader.peek >>= fun found => M found.isSome) := by
  intro front behind rest b read
  have left (token : Token) (more : List Token) : (Reader.peek >>= fun found => M found.isSome).read
      (front ++ token :: more) = (M true).read (front ++ token :: more) := by
    cases front <;> rfl
  rw [left] at read
  rw [Leaves, left]
  exact h front read

/-- **A namespace is no label.** -/
theorem namespaceLabel : Shows probe Reader.namespaceLabel := by
  have label : probe.Alien isNamespaceLabel := .and .isPrefixedName
  have found (token : Token) : Shows probe (do
      if token.isPrefixedName && !token.text.contains ':' then
        Reader.stop (.unreadable (.namespaceColon token.text))
      else return (← Reader.require .namespaceLabel isNamespaceLabel).text.dropLast : Reader Text) := by
    split
    · exact stop
    · exact map (require label)
  intro front
  cases front with
  | nil =>
    intro behind rest text read
    have unnamed : Reader.namespaceLabel.read ([] ++ probe.label :: behind) =
        (do return (← Reader.require .namespaceLabel isNamespaceLabel).text.dropLast : Reader Text).read
          (probe.label :: behind) := by
      change (if probe.label.isPrefixedName && _ then _ else _ : Reader Text).read _ = _
      rw [Alien.isPrefixedName.label, Bool.false_and, if_neg Bool.false_ne_true, List.nil_append]
    rw [unnamed] at read
    obtain ⟨name, _, required, -⟩ := bind_done.mp read
    obtain ⟨whole, holds⟩ := require_done.mp required
    obtain ⟨rfl, -⟩ := List.cons.inj whole
    exact absurd (label.label.symm.trans holds) Bool.false_ne_true
  | cons token front => exact fun behind rest text read => found token (token :: front) read

theorem prologue : Shows probe Reader.prologue :=
  many .declaration? <| ifAccept (.spells _) (map iri) <| ifAccept (.spells _)
    (bind namespaceLabel fun _ => map iri) pure

/-- Graphs behind a keyword each. -/
theorem named (keyword : String) : Shows probe (Reader.many do
    if ← Reader.accept (·.spells [keyword]) then
      let _ ← Reader.accept (·.spells ["NAMED"])
      return some (← Reader.resource)
    else return none) :=
  many (.orElse' (.pure nofun)) (ifAccept (.spells _) (bind (accept (.spells _)) fun _ => map resource) pure)

theorem datasets : Shows probe Reader.datasets := bind (named _) fun _ => pure

/-! ## Forms of queries -/

section Depth

variable (hd : DepthShows probe depth)
include hd

theorem template : Shows probe (Reader.template depth) := group hd

/-- What follows a pattern. -/
theorem solution (make : Modifiers → Option Values → β) : Shows probe (do
    let modifiers ← Reader.modifiers depth
    return make modifiers (← Reader.values?)) :=
  bind (modifiers hd) fun _ => map values?

theorem selectBody : Shows probe (Reader.selectBody depth) :=
  bind (selection hd) fun _ => bind datasets fun _ => bind (whereGroup hd) fun _ => solution hd _

theorem askBody : Shows probe (Reader.askBody depth) :=
  bind word fun _ => bind datasets fun _ => bind (whereGroup hd) fun _ => solution hd _

theorem constructBody : Shows probe (Reader.constructBody depth) :=
  bind word fun _ => bind
    (ifNext (.isSymbol (by decide)) (bind (template hd) fun _ => bind datasets fun _ => whereGroup hd)
      (bind datasets fun _ => bind word fun _ => group hd))
    fun _ => solution hd _

/-! ## Updates -/

omit hd in
theorem graphOrDefault : Shows probe Reader.graphOrDefault :=
  ifAccept (.spells _) pure (bind (accept (.spells _)) fun _ => bind resource fun _ => pure)

omit hd in
theorem manage (management : Management) : Shows probe (Reader.manage management) := by
  have clears : Shows probe (do
      if ← Reader.accept (·.spells ["GRAPH"]) then
        let _ ← Reader.resource
      else
        let _ ← Reader.word ["DEFAULT", "NAMED", "ALL"]
      return Operation.manage management) :=
    ifAccept (.spells _) (bind resource fun _ => pure) (bind word fun _ => pure)
  have copies : Shows probe (do
      Reader.graphOrDefault
      let _ ← Reader.word ["TO"]
      Reader.graphOrDefault
      return Operation.manage management) :=
    bind graphOrDefault fun _ => bind word fun _ => bind graphOrDefault fun _ => pure
  refine bind (accept (.spells _)) fun _ => ?_
  cases management with
  | load => exact bind resource fun _ => ifAccept (.spells _) (bind word fun _ => bind resource fun _ => pure) pure
  | clear => exact clears
  | drop => exact clears
  | create => exact bind word fun _ => bind resource fun _ => pure
  | add => exact copies
  | move => exact copies
  | copy => exact copies

theorem modify (deleted inserted : Option Group) : Shows probe (Reader.modify depth deleted inserted) :=
  bind (named _) fun _ => bind word fun _ => map (group hd)

theorem insert (deleted : Option Group) : Shows probe (do
    let inserted ← Reader.template depth
    Reader.modify depth deleted (some inserted)) :=
  bind (template hd) fun _ => modify hd _ _

theorem deleteInsert : Shows probe (Reader.deleteInsert depth) :=
  bind (template hd) fun _ => ifAccept (.spells _) (bind (map (template hd)) fun _ => modify hd _ _) (modify hd _ _)

omit hd in
/-- No operation is named by a label. -/
theorem management?_alien : probe.Alien fun token => (management? token).isSome := by
  have none_ {token : Token} (other : ∀ words, token.spells words = false) : (management? token).isSome = false := by
    have missed : management? token = none := List.find?_eq_none.mpr fun management _ => by
      rw [other]
      exact Bool.false_ne_true
    rw [missed]
    rfl
  exact ⟨none_ fun words => (Alien.spells words).label, none_ fun words => (Alien.spells words).operator⟩

theorem operation : Shows probe (Reader.operation depth) := by
  refine orElse management?_alien (fun token => ?_) (ifAccept (.spells _) ?_ (ifAccept (.spells _) ?_
    (ifAccept (.spells _) ?_ refuse)))
  · dsimp only
    split
    · exact manage _
    · exact refuse
  · exact ifAccept (.spells _) (map (template hd)) (insert hd none)
  · exact ifAccept (.spells _) (map (template hd)) (ifAccept (.spells _) (map (group hd)) (deleteInsert hd))
  · exact bind resource fun _ => ifAccept (.spells _) (insert hd none) (bind word fun _ => deleteInsert hd)

theorem operationTurn : Shows probe (Reader.operationTurn depth) := by
  refine bind (operation hd) fun _ => ifAccept (.isSymbol (by decide)) (bind prologue fun _ => ?_) pure
  exact ifLeft (M := fun left => if left then _ else _) pure

end Depth

end Shows

/-! ## All forms -/

section Depth

variable (hd : DepthShows probe depth)
include hd

/-- **A description makes the exception.** -/
theorem ShowsBut.describeBody : ShowsBut probe Token.AreDescribed (Reader.describeBody depth) := by
  refine andThen (F := fun _ => Token.AreDescribable) .word (fun _ => before described fun _ => ?_) fun read names => ?_
  · refine .bind .datasets fun _ => .bind (.accept (.spells _)) fun _ =>
      .bind (.next (Alien.isSymbol (by decide)).same) fun _ => ?_
    split
    · exact .bind (.map (.group hd)) fun _ => .solution hd _
    · exact .bind .pure fun _ => .solution hd _
  · obtain ⟨whole, holds⟩ := require_done.mp read
    obtain rfl := List.append_cancel_right (show _ ++ _ = (_ :: _) ++ _ from whole)
    exact .names holds names

/-- **A body shows every label** but those that DESCRIBE takes. -/
theorem ShowsBut.body : ShowsBut probe Token.AreDescribed (Reader.body depth) :=
  ifNext (.spells _) (Shows.but (.map (.selectBody hd))) <| ifNext (.spells _) (Shows.but (.map (.askBody hd))) <|
    ifNext (.spells _) (Shows.but (.map (.constructBody hd))) <|
    ifNext (.spells _) (before (describeBody hd) fun _ => .pure) <|
    ifNext (.spells _) (Shows.but (.map (.loop Progress.operation.of_first (.operationTurn hd)))) (Shows.but .refuse)

/-- **Behind its prologue a query starts with names that are described.** -/
def DescribesIn (probe : Probe) (front : List Token) : Prop :=
  ∃ declarations description prologue, front = declarations ++ description ∧
    Reader.prologue.read (front ++ [probe.operator]) = .done prologue (description ++ [probe.operator]) ∧
    Token.AreDescribed description

/-- **A query shows every label** but those that its DESCRIBE takes. -/
theorem ShowsBut.query : ShowsBut probe (DescribesIn probe) (Reader.query depth) := by
  refine andThen (F := fun _ => Token.AreDescribed) .prologue (fun declarations => before (body hd) fun pair => ?_)
    fun {front between prologue} read described => ?_
  · exact .ifLeft (M := fun left => if left then _ else _) Shows.refuse
  · obtain ⟨declarations, whole⟩ := exists_taken read
    rw [← List.append_assoc] at whole
    exact ⟨declarations, between, prologue, List.append_cancel_right whole, read, described⟩

end Depth

end Reader

/-! ## Lists of tokens -/

/-- **What is reported of the operator in the place of a label**: it is no term, it starts no triples, or it is taken
and the bracket behind the expression is missing where the tokens end. -/
def Probe.Role.report (operator stop : Token) : Role → ParseError
  | term => .grammar .term (.token operator) operator.position
  | subject => .grammar .patternElement (.token operator) operator.position
  | word => .grammar (.symbol ")") .endOfInput stop.position

/-- **Where a query may have the label of a blank node**: with an operator in its place, at the end of the tokens, the
reading fails for want of a term, or of triples, or of the bracket behind an expression.  The only exception is a label
behind names that are described. -/
theorem parseTokens_label {limits : Limits} {tokens before behind : List Token} {probe : Probe} {stop : Token}
    {query : Query} (accepted : parseTokens limits tokens = .ok query)
    (whole : (Token.beforeEnd tokens).1 = before ++ probe.label :: behind) (ends : stop.kind = .eof) :
    (∃ role : Role, parseTokens limits (before ++ [probe.operator, stop]) =
        .error (.failed (.rejected (role.report probe.operator stop)))) ∨
      Reader.DescribesIn probe before := by
  have readable := readable_of_parseTokens accepted
  obtain ⟨words, stop', more, rfl, free, ends'⟩ := exists_end readable.exists_eof
  rw [beforeEnd_append free ends'] at whole
  obtain rfl : words = before ++ probe.label :: behind := whole
  have read := (parseTokens_eq_ok free ends' readable).mp accepted
  refine or_comm.mp ((Reader.ShowsBut.query (Reader.Shows.inside probe limits.maxDepth) before).imp_right fun tells => ?_)
  rcases tells read with ⟨between, none_, -⟩ | halted
  · cases between <;> cases none_
  · change probe.Halts _ (limits.reader.read (before ++ [probe.operator])) at halted
    generalize operatorRead : limits.reader.read (before ++ [probe.operator]) = reading at halted
    cases halted with
    | takes never => exact never.elim
    | stops role rest =>
      have free' : ∀ token ∈ before ++ [probe.operator], token.kind ≠ .eof := List.forall_mem_append.mpr
        ⟨fun token member => free token (List.mem_append_left _ member),
          List.forall_mem_singleton.mpr (by rw [probe.kind_operator]; decide)⟩
      have readable' : Token.Readable limits ((before ++ [probe.operator]) ++ [stop]) := by
        refine ⟨by rw [List.getLast?_concat]; exact decide_eq_true ends, ?_⟩
        have few := readable.few
        simp only [List.length_append, List.length_cons, List.length_nil] at few ⊢
        omega
      refine ⟨role, ?_⟩
      rw [List.append_cons, parseTokens_append free' ends readable',
        ofTokens_eq_error.mpr ⟨_, _, operatorRead, rfl⟩]
      cases role <;> rfl

/-- The label of a blank node in a collection is a term. -/
theorem parseTokens_label_collection :
    let word (kind : Token.Kind) (text : String) : Token := ⟨kind, text.toList, .start⟩
    let probe : Probe := ⟨word .prefixedName "_:b", word .punctuation "&&", rfl, rfl, rfl⟩
    let before := [word .keyword "ASK", word .punctuation "\x7b", word .var "?s", word .prefixedName "ex:p",
      word .punctuation "("]
    let behind := [word .punctuation ")", word .punctuation "\x7d"]
    ∃ query, parseTokens .standard (before ++ probe.label :: behind ++ [word .eof ""]) = .ok query ∧
      ∃ role : Role, parseTokens .standard (before ++ [probe.operator, word .eof ""]) =
        .error (.failed (.rejected (role.report probe.operator (word .eof "")))) := by
  intro word probe before behind
  have accepted : parseTokens .standard (before ++ probe.label :: behind ++ [word .eof ""]) = .ok _ := rfl
  refine ⟨_, accepted, (parseTokens_label accepted rfl rfl).resolve_right ?_⟩
  rintro ⟨declarations, description, prologue, -, read, described⟩
  obtain ⟨-, same⟩ := Reading.done.inj
    ((show Reader.prologue.read (before ++ [probe.operator]) = .done [] (before ++ [probe.operator]) from rfl).symm.trans read)
  rw [← List.append_cancel_right same] at described
  exact absurd described.describes (by decide)

/-- **A label is described**: the tokens are accepted, and an operator in the place of the label is reported as what is
neither a term nor the start of triples nor a word of an expression. -/
theorem label_described :
    ¬∀ {limits : Limits} {tokens before behind : List Token} {probe : Probe} {stop : Token} {query : Query},
      parseTokens limits tokens = .ok query → (Token.beforeEnd tokens).1 = before ++ probe.label :: behind →
      stop.kind = .eof → ∃ role : Role, parseTokens limits (before ++ [probe.operator, stop]) =
        .error (.failed (.rejected (role.report probe.operator stop))) := by
  intro everyReported
  let word (kind : Token.Kind) (text : String) : Token := ⟨kind, text.toList, .start⟩
  let probe : Probe := ⟨word .prefixedName "_:b", word .punctuation "&&", rfl, rfl, rfl⟩
  have accepted : parseTokens .standard [word .keyword "DESCRIBE", probe.label, word .eof ""] = .ok _ := rfl
  have whole : (Token.beforeEnd [word .keyword "DESCRIBE", probe.label, word .eof ""]).1 =
    [word .keyword "DESCRIBE"] ++ probe.label :: [] := rfl
  obtain ⟨role, failed⟩ := @everyReported .standard _ _ _ probe (word .eof "") _ accepted whole rfl
  have reported : parseTokens .standard ([word .keyword "DESCRIBE"] ++ [probe.operator, word .eof ""]) =
    .error (.failed (.rejected (.grammar .describedResource (.token probe.operator) .start))) := rfl
  rw [reported] at failed
  cases role <;> cases failed

end QuerySignature
