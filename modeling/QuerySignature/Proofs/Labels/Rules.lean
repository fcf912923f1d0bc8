import QuerySignature.Proofs.Paired.Pieces
import QuerySignature.Proofs.Reading.Unrolled

/-!
# Proofs/Labels/Rules — what an operator shows of the place of a label

The label of a blank node is a token of the same kind as a name, and what may stand in its place is seen from where the
reading stops if there is an operator instead (`Probe`): no rule but that of expressions takes an operator.  A reader
`Tells` of a label in front of which it comes to a value: it leaves the label, and then the operator too, or it takes it
as a term, as the first term of triples, or among the tokens of an expression (`Probe.Role`).  There is one rule for each
way to build a reader; all that need be known of a choice is that it is the same for both tokens (`Probe.Alien`).
-/

namespace QuerySignature

/-- **A label of a blank node, and an operator in its place.** -/
structure Probe where
  label : Token
  operator : Token
  isName : label.kind = .prefixedName
  isMarked : label.hasBlankMark = true
  isOperator : operator.isSymbol ["&&"] = true

namespace Probe

/-- **The roles of a label**: it is a term where one must stand, a term with which triples start, or one of the tokens of
an expression. -/
inductive Role where
  | term
  | subject
  | word
  deriving DecidableEq

/-- **Why the reading stops with the operator** in the place of a label: it is no term, it starts no triples, or it is
taken and the bracket behind the expression is missing. -/
def Role.fault (probe : Probe) : Role → Fault
  | term => .unexpected .term (some probe.operator)
  | subject => .unexpected .patternElement (some probe.operator)
  | word => .unexpected (.symbol ")") none

variable {probe : Probe}

/-- The operator that stands for the label is punctuation. -/
theorem kind_operator (probe : Probe) : probe.operator.kind = .punctuation :=
  Reader.kind_of_isSymbol probe.isOperator

/-- **The predicate holds neither of the label nor of the operator.** -/
structure Alien (probe : Probe) (p : Token → Bool) : Prop where
  label : p probe.label = false
  operator : p probe.operator = false

namespace Alien

variable {p q : Token → Bool}

/-- A test that is alien to a probe does not tell its two tokens apart. -/
theorem same (h : probe.Alien p) : p probe.operator = p probe.label := h.operator.trans h.label.symm

/-- Two alien tests are alien together. -/
theorem or (hp : probe.Alien p) (hq : probe.Alien q) : probe.Alien fun token => p token || q token :=
  ⟨Bool.or_eq_false_iff.mpr ⟨hp.label, hq.label⟩, Bool.or_eq_false_iff.mpr ⟨hp.operator, hq.operator⟩⟩

theorem and (hp : probe.Alien p) : probe.Alien fun token => p token && q token :=
  ⟨Bool.and_eq_false_imp.mpr fun holds => absurd (hp.label.symm.trans holds) Bool.false_ne_true,
    Bool.and_eq_false_imp.mpr fun holds => absurd (hp.operator.symm.trans holds) Bool.false_ne_true⟩

/-- A test for another kind is alien. -/
theorem isKind {kind : Token.Kind} (name : kind ≠ .prefixedName) (symbol : kind ≠ .punctuation) :
    probe.Alien fun token => decide (token.kind = kind) where
  label := decide_eq_false fun same => name (same.symm.trans probe.isName)
  operator := decide_eq_false fun same => symbol (same.symm.trans probe.kind_operator)

/-- No keyword is spelled like either token of a probe. -/
theorem spells (words : List String) : probe.Alien (·.spells words) where
  label := Reader.not_spells (by rw [probe.isName]; decide) words
  operator := Reader.not_spells (by rw [probe.kind_operator]; decide) words

/-- A test for symbols is alien unless it asks for the operator. -/
theorem isSymbol {symbols : List String} (apart : ∀ text ∈ ["&&"].map String.toList, text ∉ symbols.map String.toList) :
    probe.Alien (·.isSymbol symbols) where
  label := Bool.eq_false_iff.mpr fun is => by
    have kind := Reader.kind_of_isSymbol is
    rw [probe.isName] at kind
    cases kind
  operator := Token.isSymbol_apart probe.isOperator apart

/-- **A label is no name under a namespace.** -/
theorem isPrefixedName : probe.Alien Token.isPrefixedName where
  label := by rw [Token.isPrefixedName, probe.isMarked, Bool.not_true, Bool.and_false]
  operator := by rw [Token.isPrefixedName, probe.kind_operator]; rfl

theorem isResource : probe.Alien Token.isResource :=
  .or (.isKind (by decide) (by decide)) .isPrefixedName

theorem isNumeric : probe.Alien Token.isNumeric :=
  .and (.isKind (by decide) (by decide))

end Alien

/-- **With the operator the reading halts**: it stops in one of the roles, or takes the operator for such a value and
leaves nothing. -/
inductive Halts (probe : Probe) {α : Type} (P : α → Prop) : Reading α → Prop where
  | stops (role : Role) (rest : List Token) : Halts probe P (.stopped (role.fault probe) rest)
  | takes {a : α} : P a → Halts probe P (.done a [])

/-- Where a reader stops, so does what follows it. -/
theorem Halts.bind {α β : Type} {Q : β → Prop} {R : Reader α} {N : α → Reader β} {tokens : List Token}
    (halts : probe.Halts (fun _ => False) (R.read tokens)) : probe.Halts Q ((R >>= N).read tokens) := by
  rw [Reader.bind_read]
  generalize R.read tokens = reading at halts
  cases halts with
  | stops role rest => exact .stops role rest
  | takes never => exact never.elim

end Probe

open Probe

namespace Reader

variable {α β : Type} {probe : Probe} {P : α → Prop} {Q : β → Prop} {R : Reader α} {N : α → Reader β} {p q : Token → Bool}
  {front : List Token}

/-- **The reader leaves the label, and the operator too.** -/
def Leaves (probe : Probe) (R : Reader α) (front behind rest : List Token) (a : α) : Prop :=
  ∃ between, rest = between ++ probe.label :: behind ∧
    R.read (front ++ [probe.operator]) = .done a (between ++ [probe.operator])

/-- The reader tells of a label behind such tokens. -/
def TellsAt (probe : Probe) (P : α → Prop) (R : Reader α) (front : List Token) : Prop :=
  ∀ ⦃behind rest : List Token⦄ ⦃a : α⦄, R.read (front ++ probe.label :: behind) = .done a rest →
    Leaves probe R front behind rest a ∨ probe.Halts P (R.read (front ++ [probe.operator]))

/-- **The reader tells of a label**, if it comes to a value: it leaves the label and the operator, or with the operator
the reading halts. -/
def Tells (probe : Probe) (P : α → Prop) (R : Reader α) : Prop :=
  ∀ front, TellsAt probe P R front

/-- **The reader shows in which role a label stands** that it does not leave. -/
abbrev Shows (probe : Probe) (R : Reader α) : Prop :=
  Tells probe (fun _ => False) R

/-- **One reader after the other**, behind such tokens. -/
theorem TellsAt.bind (first : TellsAt probe P R front)
    (next : ∀ {a between}, R.read (front ++ [probe.operator]) = .done a (between ++ [probe.operator]) →
      TellsAt probe Q (N a) between)
    (ends : ∀ {a}, P a → probe.Halts Q ((N a).read [])) : TellsAt probe Q (R >>= N) front := by
  intro behind rest b read
  obtain ⟨a, between, firstRead, nextRead⟩ := bind_done.mp read
  rw [Leaves, bind_read]
  rcases first firstRead with ⟨between, rfl, passed⟩ | halted
  · rw [passed]
    exact next passed nextRead
  · right
    generalize R.read (front ++ [probe.operator]) = reading at halted
    cases halted with
    | stops role rest => exact .stops role rest
    | takes holds => exact ends holds

/-- **One reader after the other.** -/
theorem Tells.bind (first : Shows probe R) (next : ∀ a, Tells probe Q (N a)) : Tells probe Q (R >>= N) :=
  fun front => .bind (first front) (fun _ => next _ _) fun never => never.elim

/-- A value made of what is read. -/
theorem Tells.map {f : α → β} (h : Tells probe P R) (imp : ∀ {a}, P a → Q (f a)) :
    Tells probe Q (do return f (← R)) := by
  refine fun front => .bind (h front) (fun _ _ _ _ gives => ?_) fun holds => .takes (imp holds)
  obtain ⟨rfl, rfl⟩ := pure_done.mp gives
  exact .inl ⟨_, rfl, rfl⟩

namespace Shows

/-- **What a chain shows**, from what its readers show. -/
theorem bind (first : Shows probe R) (next : ∀ a, Shows probe (N a)) : Shows probe (R >>= N) :=
  Tells.bind first next

theorem pure {a : α} : Tells probe P (Pure.pure a) := by
  intro front behind rest b read
  obtain ⟨rfl, rfl⟩ := pure_done.mp read
  exact .inl ⟨front, rfl, rfl⟩

theorem stop {fault : Fault} : Tells probe P (Reader.stop fault : Reader α) :=
  fun _ _ _ _ read => (stop_done.mp read).elim

theorem refuse {expected : Expected} : Tells probe P (Reader.refuse expected : Reader α) :=
  fun _ _ _ _ read => (refuse_done.mp read).elim

theorem shift {change : Shift} : Shows probe (Reader.shift change) := by
  intro front behind rest b read
  obtain ⟨rfl, rfl⟩ := Reading.done.inj read
  exact .inl ⟨front, rfl, rfl⟩

theorem valued {term : Except Unreadable α} : Shows probe (Reader.valued term) := by
  cases term with
  | ok a => exact pure
  | error fault => exact stop

/-- A value made of what is read. -/
theorem map {f : α → β} (h : Shows probe R) : Shows probe (do return f (← R)) :=
  Tells.map h id

/-! ## Tokens ahead -/

/-- A predicate that does not tell them apart. -/
theorem head?_any (same : p probe.operator = p probe.label) (front behind : List Token) :
    (front ++ [probe.operator]).head?.any p = (front ++ probe.label :: behind).head?.any p := by
  cases front with
  | nil => exact same
  | cons token front => rfl

/-- A look-ahead leaves both tokens, if its test does not tell them apart. -/
theorem next (same : p probe.operator = p probe.label) : Shows probe (Reader.next p) := by
  intro front behind rest b read
  obtain ⟨holds, rfl⟩ := next_done.mp read
  exact .inl ⟨front, rfl, next_done.mpr ⟨(head?_any same ..).trans holds, rfl⟩⟩

/-- Two predicates of which neither holds of the label or the operator. -/
theorem two_any (first : probe.Alien p) (second : probe.Alien q) (front behind : List Token) :
    ((front ++ [probe.operator]).head?.any p && (front ++ [probe.operator]).tail.head?.any q) =
      ((front ++ probe.label :: behind).head?.any p && (front ++ probe.label :: behind).tail.head?.any q) := by
  rcases front with _ | ⟨token, _ | ⟨token', front⟩⟩
  · change (p probe.operator && _) = (p probe.label && _)
    rw [first.operator, first.label, Bool.false_and, Bool.false_and]
  · change (p token && q probe.operator) = (p token && q probe.label)
    rw [second.operator, second.label]
  · rfl

/-- A look-ahead of two tokens needs two alien tests. -/
theorem nextTwo (first : probe.Alien p) (second : probe.Alien q) : Shows probe (Reader.nextTwo p q) := by
  intro front behind rest b read
  obtain ⟨holds, rfl⟩ := Reading.done.inj read
  exact .inl ⟨front, rfl, congrArg (Reading.done · _) ((two_any first second front behind).trans holds)⟩

/-- A token taken by an alien test is neither of the two. -/
theorem accept? (alien : probe.Alien p) : Shows probe (Reader.accept? p) := by
  intro front behind rest found read
  refine .inl ?_
  cases found with
  | none =>
    obtain ⟨rfl, missed⟩ := accept?_none.mp read
    exact ⟨front, rfl, accept?_none.mpr ⟨rfl, (head?_any alien.same ..).trans missed⟩⟩
  | some token =>
    obtain ⟨whole, holds⟩ := accept?_some.mp read
    cases front with
    | nil =>
      obtain ⟨rfl, -⟩ := List.cons.inj whole
      exact absurd (alien.label.symm.trans holds) Bool.false_ne_true
    | cons first front =>
      obtain ⟨rfl, rfl⟩ := List.cons.inj whole
      exact ⟨front, rfl, accept?_some.mpr ⟨rfl, holds⟩⟩

theorem accept (alien : probe.Alien p) : Shows probe (Reader.accept p) :=
  map (accept? alien)

theorem require {expected : Expected} (alien : probe.Alien p) : Shows probe (Reader.require expected p) :=
  bind (accept? alien) fun
    | some _ => pure
    | none => refuse

/-- A symbol other than the operator. -/
theorem symbol {text : String} (apart : ∀ mark ∈ ["&&"].map String.toList, mark ∉ [text].map String.toList) :
    Shows probe (Reader.symbol text) :=
  require (.isSymbol apart)

theorem word {words : List String} : Shows probe (Reader.word words) :=
  require (.spells words)

theorem variableName : Shows probe Reader.variableName :=
  map (require (.isKind (by decide) (by decide)))

theorem acceptTwo? (first : probe.Alien p) (second : probe.Alien q) : Shows probe (Reader.acceptTwo? p q) := by
  intro front behind rest found read
  refine .inl ?_
  by_cases both : ((front ++ probe.label :: behind).head?.any p &&
      (front ++ probe.label :: behind).tail.head?.any q) = true
  · -- both tokens stand in front of the label
    rcases front with _ | ⟨token, _ | ⟨token', front⟩⟩
    · exact absurd ((Bool.and_eq_true _ _).mp both).1 (Bool.eq_false_iff.mp first.label)
    · exact absurd ((Bool.and_eq_true _ _).mp both).2 (Bool.eq_false_iff.mp second.label)
    · obtain ⟨rfl, rfl⟩ := Reading.done.inj ((acceptTwo?_found both).1.symm.trans read)
      exact ⟨front, rfl, (acceptTwo?_found both).1⟩
  · obtain ⟨rfl, rfl⟩ := Reading.done.inj ((acceptTwo?_missed both).1.symm.trans read)
    refine ⟨front, rfl, (acceptTwo?_missed fun holds => both ?_).1⟩
    rwa [← two_any first second]

/-! ## Choices -/

/-- A choice between two ways to go on. -/
theorem either {R : Reader Bool} {M : Bool → Reader β} (first : Shows probe R) (yes : Tells probe Q (M true))
    (no : Tells probe Q (M false)) : Tells probe Q (R >>= M) :=
  .bind first (Bool.forall_bool.mpr ⟨no, yes⟩)

/-- A look-ahead by an alien test goes the same way on both sides. -/
theorem ifNext {M : Bool → Reader β} (alien : probe.Alien p) (yes : Tells probe Q (M true))
    (no : Tells probe Q (M false)) : Tells probe Q (Reader.next p >>= M) :=
  either (next alien.same) yes no

/-- A token accepted by an alien test goes the same way on both sides. -/
theorem ifAccept {M : Bool → Reader β} (alien : probe.Alien p) (yes : Tells probe Q (M true))
    (no : Tells probe Q (M false)) : Tells probe Q (Reader.accept p >>= M) :=
  either (accept alien) yes no

/-- A token that is accepted, or not. -/
theorem orElse {N : Option Token → Reader β} (alien : probe.Alien p) (some : ∀ token, Tells probe Q (N (.some token)))
    (none : Tells probe Q (N .none)) : Tells probe Q (Reader.accept? p >>= N) :=
  .bind (accept? alien) fun
    | .some token => some token
    | .none => none

/-- An item that is there or not. -/
theorem ifItem {p : Token → Bool} {R : Reader α} (alien : probe.Alien p) (h : Shows probe R) : Shows probe (do
    if ← Reader.accept p then return some (← R) else return none) :=
  ifAccept alien (map h) pure

/-! ## Brackets -/

/-- A bracket shows what is read inside it. -/
theorem enter {depth : Option Inside} {bracket : Token} {N : Inside → Reader β}
    (inside : ∀ inner, depth = some inner → Tells probe Q (N inner)) : Tells probe Q (Reader.enter depth bracket >>= N) := by
  cases depth with
  | none => exact fun _ _ _ _ read => nomatch read
  | some inner => exact Tells.bind (R := Reader.shift _) shift fun _ => inside inner rfl

theorem shut {expected : Expected} (alien : probe.Alien p) : Shows probe (Reader.shut expected p) :=
  bind (require alien) fun _ => bind shift fun _ => pure

theorem close {text : String} (apart : ∀ mark ∈ ["&&"].map String.toList, mark ∉ [text].map String.toList) :
    Shows probe (Reader.close text) :=
  shut (.isSymbol apart)

/-- **A bracket that is opened, or not.** -/
theorem open? {depth : Option Inside} {brackets : List String} {N : Option (Token × Inside) → Reader β}
    (alien : probe.Alien (·.isSymbol brackets))
    (some : ∀ opening inner, depth = some inner → Tells probe Q (N (.some (opening, inner))))
    (none : Tells probe Q (N none)) : Tells probe Q (Reader.open? depth brackets >>= N) := by
  intro front behind rest b read
  obtain ⟨found, between, opened, further⟩ := bind_done.mp read
  rcases open?_done opened with ⟨rfl, rfl, missed⟩ | ⟨opening, inner, rfl, deeper, whole, opens⟩
  · have same := @open?_none depth _ _ ((head?_any alien.same front behind).trans missed)
    rw [Leaves, bind_read, same]
    exact none _ further
  · cases front with
    | nil =>
      obtain ⟨rfl, -⟩ := List.cons.inj whole
      exact absurd (alien.label.symm.trans opens) Bool.false_ne_true
    | cons first front =>
      obtain ⟨rfl, rfl⟩ := List.cons.inj whole
      rw [Leaves, bind_read, List.cons_append, open?_some deeper opens]
      exact some first inner deeper _ further

/-! ## Loops -/

/-- **A loop whose turns tell of a label**; behind a turn that takes the operator the next one stops. -/
theorem loop_of_tells {turn : Reader (Turn α)} {P : Turn α → Prop} (progress : Progress Turn.GoesOn turn)
    (h : Tells probe P turn) (further : ∀ {turned}, P turned → turned.GoesOn ∧ probe.Halts (fun _ => False) (turn.read [])) :
    Shows probe (loop turn) := by
  intro front
  -- a turn that goes on leaves less
  induction length : front.length using Nat.strong_induction_on generalizing front with
  | _ n ih =>
  subst length
  have unrolled : TellsAt probe (fun _ => False) (turn >>= afterTurn turn) front := by
    refine .bind (h front) (fun {turned between} read => ?_) fun {turned} holds => ?_
    · cases turned with
      | stop => exact pure between
      | last item => exact pure between
      | more item =>
        have less := progress read trivial
        rw [List.length_append, List.length_append] at less
        exact .bind (ih _ (Nat.lt_of_add_lt_add_right less) between rfl) (fun _ => pure _) fun never => never.elim
    · obtain ⟨goesOn, stops⟩ := further holds
      cases turned with
      | stop => exact goesOn.elim
      | last item => exact goesOn.elim
      | more item =>
        refine Halts.bind ?_
        rw [loop_unroll progress]
        exact Halts.bind stops
  intro behind rest list read
  rw [loop_unroll progress] at read
  rw [Leaves, loop_unroll progress]
  exact unrolled read

/-- A loop shows the role of a label if its turns do. -/
theorem loop {turn : Reader (Turn α)} (progress : Progress Turn.GoesOn turn) (h : Shows probe turn) :
    Shows probe (loop turn) :=
  loop_of_tells progress h fun never => never.elim

/-- **Items of which one may take the operator**, if there is none without a token. -/
theorem many_of_tells {item : Reader (Option α)} (progress : Progress Found item) (h : Tells probe Found item)
    (last : probe.Halts (fun _ => False) (item.read [])) : Shows probe (many item) := by
  refine loop_of_tells (P := Turn.GoesOn) (goesOn_itemTurn progress) (fun front => ?_) fun goesOn => ⟨goesOn, Halts.bind last⟩
  refine .bind (h front) (fun {found between} _ => ?_) fun {found} some_ => ?_
  · cases found <;> exact pure between
  · cases found with
    | none => cases some_
    | some a => exact .takes trivial

/-- Items show the role of a label as the turns of a loop do. -/
theorem many {item : Reader (Option α)} (progress : Progress Found item) (h : Shows probe item) :
    Shows probe (many item) :=
  loop (goesOn_itemTurn progress) (bind h fun
    | some _ => pure
    | none => pure)

/-- The test of the loop must give the same answer for both tokens; it takes neither. -/
theorem manyWhile {item : Reader α} (advances : Progress (fun _ => True) item)
    (same : p probe.operator = p probe.label) (h : Shows probe item) : Shows probe (Reader.manyWhile p item) :=
  many (.choice advances.of_first (.pure nofun)) (either (next same) (map h) pure)

/-- The closing token is found by an alien test. -/
theorem manyUntil {item : Reader α} (advances : Progress (fun _ => True) item) (alien : probe.Alien p)
    (h : Shows probe item) : Shows probe (Reader.manyUntil p item) :=
  many (.choice (.pure nofun) advances.of_first) (ifNext alien pure (map h))

end Shows

end Reader

end QuerySignature
