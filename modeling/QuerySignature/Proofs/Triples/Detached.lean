import QuerySignature.Proofs.Paired.Pieces
import QuerySignature.Proofs.Reading.Unrolled

/-!
# Proofs/Triples/Detached — what stands behind makes no difference

A reader is `Detached` up to a predicate if it comes to its value whatever stands behind the tokens that it takes,
as long as the predicate cannot tell the next tokens apart.  A node is detached from anything; a path only from what
cannot continue it, and a property list from what is no separator and starts no verb.  A reader that takes a token
sees the same one in both runs, so there a choice by the next token needs no such provision.
-/

namespace QuerySignature.Reader

variable {α β : Type} {p q : Token → Bool} {R : Reader α} {N : α → Reader β} {tokens taken rest rest' : List Token}

/-- **The predicate cannot tell the next tokens apart**: they are one, or it holds of neither. -/
def SameAhead (p : Token → Bool) (rest rest' : List Token) : Prop :=
  rest.head? = rest'.head? ∨ rest.head?.any p = false ∧ rest'.head?.any p = false

/-- **Behind what the reader takes anything may stand** that the predicate cannot tell from what stood there. -/
def Detached (p : Token → Bool) (R : Reader α) : Prop :=
  ∀ ⦃taken rest rest' : List Token⦄ ⦃a : α⦄, SameAhead p rest rest' → R.read (taken ++ rest) = .done a rest →
    R.read (taken ++ rest') = .done a rest'

/-- No token. -/
def nothing (_ : Token) : Bool := false

/-- The reader takes a token. -/
abbrev Advances (R : Reader α) : Prop := Progress (fun _ => True) R

namespace SameAhead

/-- A predicate that holds of fewer tokens tells fewer apart. -/
theorem mono (h : SameAhead q rest rest') (sub : ∀ token, p token = true → q token = true) :
    SameAhead p rest rest' := by
  have none_ {tokens : List Token} (missed : tokens.head?.any q = false) : tokens.head?.any p = false := by
    cases tokens with
    | nil => rfl
    | cons token tokens => exact Bool.eq_false_iff.mpr fun holds => Bool.eq_false_iff.mp missed (sub token holds)
  exact h.imp_right fun both => ⟨none_ both.1, none_ both.2⟩

/-- The test has the same answer ahead of both. -/
theorem any (h : SameAhead p rest rest') : rest'.head?.any p = rest.head?.any p := by
  rcases h with same | ⟨missed, missed'⟩
  · rw [same]
  · rw [missed, missed']

/-- Behind tokens that are still taken. -/
theorem append (h : SameAhead p rest rest') : SameAhead p (taken ++ rest) (taken ++ rest') := by
  cases taken with
  | nil => exact h
  | cons token taken => exact .inl rfl

/-- Where a token was taken, the same token is ahead of both. -/
theorem of_cons {token : Token} : SameAhead p (token :: taken ++ rest) (token :: taken ++ rest') :=
  .inl rfl

end SameAhead

/-! ## What is taken -/

/-- A reader takes tokens from the front. -/
theorem exists_taken {a : α} (read : R.read tokens = .done a rest) : ∃ taken, tokens = taken ++ rest :=
  ⟨_, (conserves_done read).symm⟩

/-- What is taken one after the other. -/
theorem bind_taken {b : β} (read : (R >>= N).read (taken ++ rest) = .done b rest) :
    ∃ a first second, taken = first ++ second ∧ R.read (first ++ (second ++ rest)) = .done a (second ++ rest) ∧
      (N a).read (second ++ rest) = .done b rest := by
  obtain ⟨a, between, firstRead, nextRead⟩ := bind_done.mp read
  obtain ⟨second, rfl⟩ := exists_taken nextRead
  obtain ⟨first, whole⟩ := exists_taken firstRead
  rw [← List.append_assoc] at whole
  obtain rfl := List.append_cancel_right whole
  rw [List.append_assoc] at firstRead
  exact ⟨a, first, second, rfl, firstRead, nextRead⟩

/-- A reader that takes a token takes the first. -/
theorem Progress.exists_cons {a : α} (h : Advances R) (read : R.read (taken ++ rest) = .done a rest) :
    ∃ token others, taken = token :: others := by
  have less := h read trivial
  cases taken with
  | nil => exact absurd less (Nat.lt_irrefl _)
  | cons token others => exact ⟨token, others, rfl⟩

/-- A bracket that is opened, or else a reader that takes a token. -/
theorem Progress.orOpen {depth : Option Inside} {brackets : List String} {N : Option (Token × Inside) → Reader β}
    (none : Advances (N .none)) : Advances (Reader.open? depth brackets >>= N) := by
  refine Progress.open?.bind fun found => ?_
  cases found with
  | none => exact .inr none
  | some _ => exact .inl rfl

/-- A reader behind a bracket that is opened takes another token. -/
theorem open?_lt {depth : Option Inside} {brackets : List String} {N : Option (Token × Inside) → Reader β} {token : Token}
    {b : β} (opens : token.isSymbol brackets = true) (advances : ∀ pair, Advances (N (some pair)))
    (read : (Reader.open? depth brackets >>= N).read (token :: tokens) = .done b rest) : rest.length < tokens.length := by
  obtain ⟨found, between, opened, further⟩ := bind_done.mp read
  rcases open?_done opened with ⟨-, -, missed⟩ | ⟨opening, inner, rfl, -, whole, -⟩
  · rw [List.head?_cons, Option.any_some, opens] at missed
    cases missed
  · cases whole
    exact advances _ further trivial

namespace Detached

theorem mono (h : Detached p R) (sub : ∀ token, p token = true → q token = true) : Detached q R :=
  fun _ _ _ _ same read => h (same.mono sub) read

/-- A reader that looks at nothing behind it is detached from every test. -/
theorem anything (h : Detached nothing R) : Detached p R :=
  h.mono nofun

theorem pure {a : α} : Detached p (Pure.pure a) := by
  intro taken rest rest' b _ read
  obtain ⟨rfl, whole⟩ := pure_done.mp read
  obtain rfl := List.append_left_eq_self.mp whole
  rfl

theorem shift {change : Shift} : Detached p (Reader.shift change) := by
  intro taken rest rest' b _ read
  obtain ⟨rfl, whole⟩ := Reading.done.inj read
  obtain rfl := List.append_left_eq_self.mp whole
  rfl

theorem refuse {expected : Expected} : Detached p (Reader.refuse expected : Reader α) :=
  fun _ _ _ _ _ read => (refuse_done.mp read).elim

theorem valued {term : Except Unreadable α} : Detached p (Reader.valued term) := by
  cases term with
  | ok a => exact .pure
  | error fault => exact fun _ _ _ _ _ read => (stop_done.mp read).elim

theorem require {expected : Expected} : Detached p (Reader.require expected q) := by
  intro taken rest rest' token _ read
  obtain ⟨whole, holds⟩ := require_done.mp read
  obtain rfl := List.append_cancel_right (show taken ++ rest = [token] ++ rest from whole)
  exact require_done.mpr ⟨rfl, holds⟩

/-- A token that is accepted, or not. -/
theorem accept? (sub : ∀ token, q token = true → p token = true) : Detached p (Reader.accept? q) := by
  intro taken rest rest' found same read
  cases found with
  | none =>
    obtain ⟨whole, missed⟩ := accept?_none.mp read
    obtain rfl := List.append_left_eq_self.mp whole
    exact accept?_none.mpr ⟨rfl, (same.mono sub).any.trans missed⟩
  | some token =>
    obtain ⟨whole, holds⟩ := accept?_some.mp read
    obtain rfl := List.append_cancel_right (show taken ++ rest = [token] ++ rest from whole)
    exact accept?_some.mpr ⟨rfl, holds⟩

/-- **One reader after the other.** -/
theorem bind (first : Detached p R) (next : ∀ a, Detached p (N a)) : Detached p (R >>= N) := by
  intro taken rest rest' b same read
  obtain ⟨a, front, behind, rfl, firstRead, nextRead⟩ := bind_taken read
  rw [List.append_assoc]
  exact bind_done.mpr ⟨a, _, first same.append firstRead, next a same nextRead⟩

/-- **A reader, and one that takes a token**, which is what the first leaves. -/
theorem before (first : Detached p R) (next : ∀ a, Detached q (N a)) (advances : ∀ a, Advances (N a)) :
    Detached q (R >>= N) := by
  intro taken rest rest' b same read
  obtain ⟨a, front, behind, rfl, firstRead, nextRead⟩ := bind_taken read
  obtain ⟨token, others, rfl⟩ := (advances a).exists_cons nextRead
  rw [List.append_assoc]
  exact bind_done.mpr ⟨a, _, first .of_cons firstRead, next a same nextRead⟩

/-- What may be accepted is a token that the predicate sees. -/
theorem accept (sub : ∀ token, q token = true → p token = true) : Detached p (Reader.accept q) :=
  bind (accept? sub) fun _ => .pure

/-- A look-ahead is for tokens that the predicate sees. -/
theorem next (sub : ∀ token, q token = true → p token = true) : Detached p (Reader.next q) := by
  intro taken rest rest' b same read
  obtain ⟨holds, whole⟩ := next_done.mp read
  obtain rfl := List.append_left_eq_self.mp whole
  exact next_done.mpr ⟨(same.mono sub).any.trans holds, rfl⟩

/-- **A token that is accepted, or else a reader that takes one.** -/
theorem orElse {N : Option Token → Reader β} (some : ∀ token, Detached p (N (some token)))
    (none : Detached p (N none)) (advances : Advances (N .none)) : Detached p (Reader.accept? q >>= N) := by
  intro taken rest rest' b same read
  obtain ⟨found, front, behind, rfl, firstRead, nextRead⟩ := bind_taken read
  have detached (found : Option Token) : Detached p (N found) := by cases found <;> apply_assumption
  have firstRead' : (Reader.accept? q).read (front ++ (behind ++ rest')) = .done found (behind ++ rest') := by
    cases found with
    | some token =>
      obtain ⟨whole, holds⟩ := accept?_some.mp firstRead
      obtain rfl := List.append_cancel_right (show front ++ _ = [token] ++ _ from whole)
      exact accept?_some.mpr ⟨rfl, holds⟩
    | none =>
      obtain ⟨token, others, rfl⟩ := advances.exists_cons nextRead
      exact accept? (p := q) (fun _ => id) .of_cons firstRead
  rw [List.append_assoc]
  exact bind_done.mpr ⟨found, _, firstRead', detached found same nextRead⟩

/-- A choice by the next token between readers that take it. -/
theorem ifNext {M : Bool → Reader β} (yes : Detached p (M true)) (no : Detached p (M false))
    (advances : ∀ b, Advances (M b)) : Detached p (Reader.next q >>= M) :=
  before (next (p := q) fun _ => id) (Bool.forall_bool.mpr ⟨no, yes⟩) advances

/-- **A bracket that is opened, or else a reader that takes a token.** -/
theorem open? {depth : Option Inside} {brackets : List String} {N : Option (Token × Inside) → Reader β}
    (some : ∀ opening inner, depth = .some inner → Detached p (N (.some (opening, inner))))
    (none : Detached p (N .none)) (advances : Advances (N .none)) :
    Detached p (Reader.open? depth brackets >>= N) := by
  intro taken rest rest' b same read
  obtain ⟨found, front, behind, rfl, firstRead, nextRead⟩ := bind_taken read
  rw [List.append_assoc]
  rcases open?_done firstRead with ⟨rfl, whole, missed⟩ | ⟨opening, inner, rfl, deeper, whole, opens⟩
  · obtain rfl := List.append_left_eq_self.mp whole
    obtain ⟨token, others, rfl⟩ := advances.exists_cons nextRead
    exact bind_done.mpr ⟨.none, _, open?_none missed, none same nextRead⟩
  · obtain rfl := List.append_cancel_right (show front ++ _ = [opening] ++ _ from whole)
    exact bind_done.mpr ⟨_, _, open?_some deeper opens, some opening inner deeper same nextRead⟩

/-- **Two tokens that are accepted, or else a reader that takes two** where it starts like them. -/
theorem acceptTwo? {q' : Token → Bool} {N : Option (Token × Token) → Reader β}
    (some : ∀ pair, Detached p (N (.some pair))) (none : Detached p (N .none)) (advances : Advances (N .none))
    (two : ∀ {token tokens rest b}, q token = true → (N .none).read (token :: tokens) = .done b rest →
      rest.length < tokens.length) : Detached p (Reader.acceptTwo? q q' >>= N) := by
  intro taken rest rest' b same read
  obtain ⟨found, front, behind, rfl, firstRead, nextRead⟩ := bind_taken read
  rw [List.append_assoc]
  cases found with
  | some pair =>
    obtain ⟨whole, first, second⟩ := acceptTwo?_some.mp firstRead
    obtain rfl := List.append_cancel_right (show front ++ _ = [pair.1, pair.2] ++ _ from whole)
    exact bind_done.mpr ⟨_, _, acceptTwo?_some.mpr ⟨rfl, first, second⟩, some pair same nextRead⟩
  | none =>
    obtain rfl := List.append_left_eq_self.mp (acceptTwo?_none firstRead)
    have missed : ¬((behind ++ rest').head?.any q && (behind ++ rest').tail.head?.any q') = true := by
      intro both
      obtain ⟨token, others, rfl⟩ := advances.exists_cons nextRead
      obtain ⟨first, second⟩ := (Bool.and_eq_true _ _).mp both
      cases others with
      | nil => exact absurd (two first nextRead) (Nat.lt_irrefl _)
      | cons second_ others =>
        cases (acceptTwo?_found both).1.symm.trans firstRead
    exact bind_done.mpr ⟨.none, behind ++ rest', (acceptTwo?_missed missed).1, none same nextRead⟩

/-! ### Loops -/

/-- **A loop** whose turns are detached. -/
theorem loop {turn : Reader (Turn α)} (h : Detached p turn) (progress : Progress Turn.GoesOn turn) :
    Detached p (loop turn) := by
  intro taken
  -- a turn that goes on leaves less
  induction length : taken.length using Nat.strong_induction_on generalizing taken with
  | _ n ih =>
  subst length
  intro rest rest' list same read
  rw [loop_unroll progress] at read ⊢
  obtain ⟨turned, first, behind, rfl, turnRead, further⟩ := bind_taken read
  rw [List.append_assoc]
  refine bind_done.mpr ⟨turned, _, h same.append turnRead, ?_⟩
  cases turned with
  | stop => exact Detached.pure same further
  | last item => exact Detached.pure same further
  | more item =>
    have less := progress turnRead trivial
    obtain ⟨others, _, othersRead, gives⟩ := bind_done.mp further
    obtain ⟨rfl, rfl⟩ := pure_done.mp gives
    refine bind_done.mpr ⟨others, _, ih behind.length ?_ rfl same othersRead, rfl⟩
    simp only [List.length_append] at less ⊢
    omega

/-- **A list of items** is detached from what no item begins with. -/
theorem many {item : Reader (Option α)} (h : Detached p item) (progress : Progress Found item) :
    Detached p (many item) :=
  loop (bind h fun
    | some _ => .pure
    | none => .pure) (goesOn_itemTurn progress)

/-- Items up to a token that is no start of one. -/
theorem manyWhile {item : Reader α} (h : Detached q item) (advances : Advances item) :
    Detached q (Reader.manyWhile q item) :=
  many
    (bind (next fun _ => id) (Bool.forall_bool.mpr ⟨.pure, bind h fun _ => .pure⟩))
    (.choice advances.of_first (.pure nofun))

end Detached

/-! ## Terms -/

namespace Detached

theorem signedNumber : Detached p (do
    match ← Reader.signedNumber? with
    | some number => return Node.literal number
    | none => Reader.refuse .term) := by
  intro taken rest rest' found same read
  obtain ⟨number, front, behind, rfl, signed, gives⟩ := bind_taken read
  cases number with
  | none => exact (refuse_done.mp gives).elim
  | some number =>
    obtain ⟨sign, digits, whole, isSign, isNumber, reads⟩ := (signedNumber?_done signed).1 number rfl
    obtain rfl := List.append_cancel_right (show front ++ _ = [sign, digits] ++ _ from whole)
    rw [List.append_assoc]
    refine bind_done.mpr ⟨some number, _, ?_, pure same gives⟩
    refine bind_done.mpr ⟨_, _, acceptTwo?_some.mpr ⟨rfl, isSign, isNumber⟩, ?_⟩
    exact bind_done.mpr ⟨number, _, valued_done.mpr ⟨reads, rfl⟩, rfl⟩

theorem atom (token : Token) : Detached p (Reader.atom token) := by
  unfold Reader.atom
  split
  · exact .pure
  · split <;> exact .pure
  · exact bind valued fun _ => .pure
  · exact .pure

/-- **A term ends by itself.** -/
theorem term : Detached p Reader.term :=
  orElse atom signedNumber (Progress.signedNumber?.bind fun
    | some _ => .inl rfl
    | none => .inr (.refuse _))

/-! ## Paths -/

theorem step : Detached p Reader.step := require

theorem optionalSymbol {symbols : List String} (sub : ∀ token, token.isSymbol symbols = true → p token = true) :
    Detached p (Reader.optionalSymbol symbols) :=
  bind (accept? sub) fun _ => .pure

/-- A list with marks looks for one more mark behind its last item. -/
theorem separated {mark : String} {item : Reader (List Token)} (h : Detached p item)
    (sub : ∀ token, token.isSymbol [mark] = true → p token = true) : Detached p (Reader.separated mark item) := by
  refine bind h fun _ => bind (many (bind (accept? sub) fun found => ?_) (.orElse (.pure nofun))) fun _ => .pure
  cases found with
  | some token => exact bind h fun _ => .pure
  | none => exact .pure

theorem inverseStep : Detached p Reader.inverseStep :=
  before (optionalSymbol fun _ => id) (fun _ => bind step fun _ => .pure) fun _ => Progress.step.of_first

theorem shut {expected : Expected} : Detached p (Reader.shut expected q) :=
  bind require fun _ => bind shift fun _ => .pure

theorem advances_shut {expected : Expected} : Advances (Reader.shut expected q) :=
  Progress.require.of_first

end Detached

/-- The token can continue a path. -/
def continuesPath (token : Token) : Bool :=
  token.isSymbol ["|", "/", "*", "+", "?"]

/-- The token can continue a property list. -/
def continuesList (token : Token) : Bool :=
  token.isSymbol [",", ";"] || startsVerb token

/-- **What stands inside brackets is detached** up to what continues it. -/
structure InsideDetached (inner : Inside) : Prop where
  path : Detached continuesPath inner.path
  node : Detached nothing inner.node
  advances : Advances inner.node
  properties : Detached continuesList inner.properties

/-- Wherever a bracket may open, what stands inside it is detached. -/
def DepthDetached : Option Inside → Prop
  | some inner => InsideDetached inner
  | none => True

namespace Detached

variable {depth : Option Inside}

theorem negatedSet : Detached p (Reader.negatedSet depth) := by
  refine open? (fun opening inner deeper => ?_) inverseStep (Progress.of_second fun _ => Progress.step.of_first)
  refine orElse (fun closing => bind shift fun _ => .pure) ?_ ?_
  · exact before (separated (p := (·.isSymbol ["|"])) inverseStep fun _ => id)
      (fun _ => bind shut fun _ => .pure) fun _ => advances_shut.of_first
  · exact .of_second fun _ => advances_shut.of_first

section Depth

variable (hd : DepthDetached depth)
include hd

theorem pathPrimary : Detached p (Reader.pathPrimary depth) := by
  refine open? (fun opening inner deeper => ?_) ?_ ?_
  · subst deeper
    exact before hd.path (fun _ => bind shut fun _ => .pure) fun _ => advances_shut.of_first
  · exact orElse (fun _ => bind negatedSet fun _ => .pure) (bind step fun _ => .pure) Progress.step.of_first
  · exact .orElse Progress.step.of_first

/-- A path element looks for a modifier behind it. -/
theorem pathElement : Detached continuesPath (Reader.pathElement depth) :=
  before (optionalSymbol fun _ => id)
    (fun _ => bind (pathPrimary hd) fun _ => bind (optionalSymbol fun _ is => Token.isSymbol_mono is (by decide))
      fun _ => .pure)
    fun _ => Progress.pathPrimary.of_first

/-- **A path ends where nothing continues it.** -/
theorem path : Detached continuesPath (Reader.path depth) :=
  separated (separated (pathElement hd) fun _ is => Token.isSymbol_mono is (by decide))
    fun _ is => Token.isSymbol_mono is (by decide)

/-- A verb looks for more of its path. -/
theorem verb : Detached continuesPath (Reader.verb depth) := by
  refine orElse (fun _ => .pure) (ifNext ?_ .refuse (Bool.forall_bool.mpr ⟨.refuse _, Progress.path.of_first⟩))
    (.choice Progress.path.of_first (.refuse _))
  refine bind (path hd) fun tokens => ?_
  split <;> exact .pure

/-! ## Nodes and property lists -/

/-- **A node ends by itself.** -/
theorem node : Detached p (Reader.node depth) := by
  refine acceptTwo? (fun _ => .pure) ?_ (.orOpen (.orOpen Progress.term)) fun {token tokens rest found} opens read => ?_
  · refine open? (fun opening inner deeper => ?_) (open? (fun opening inner deeper => ?_) term Progress.term)
      (.orOpen Progress.term)
    · subst deeper
      exact before hd.properties (fun _ => bind shut fun _ => .pure) fun _ => advances_shut.of_first
    · subst deeper
      exact before (manyWhile hd.node.anything hd.advances) (fun _ => bind shut fun _ => .pure)
        fun _ => advances_shut.of_first
  · exact open?_lt opens (fun _ => .of_second fun _ => advances_shut.of_first) read

/-- A list of objects looks for one more comma. -/
theorem objects : Detached (·.isSymbol [","]) (Reader.objects depth) :=
  bind (node hd) fun _ => bind
    (many (bind (accept fun _ => id) (Bool.forall_bool.mpr ⟨.pure, bind (node hd) fun _ => .pure⟩))
      (.orElse' (.pure nofun)))
    fun _ => .pure

/-- A property looks for more of its path, its objects or its list. -/
theorem property : Detached continuesList (Reader.property depth) := by
  have comma (token : Token) (is : token.isSymbol [","] = true) : continuesList token = true :=
    (Bool.or_eq_true _ _).mpr (.inl (Token.isSymbol_mono is (by decide)))
  have semicolon (token : Token) (is : token.isSymbol [";"] = true) : continuesList token = true :=
    (Bool.or_eq_true _ _).mpr (.inl (Token.isSymbol_mono is (by decide)))
  refine before (verb hd) (fun verb => bind ((objects hd).mono comma) fun list => ?_)
    fun _ => Progress.node.of_first.of_first
  refine bind (accept semicolon) (Bool.forall_bool.mpr ⟨.pure, ?_⟩)
  refine bind (many (accept? semicolon) .accept?) fun _ => ?_
  refine bind (next fun token starts => (Bool.or_eq_true _ _).mpr (.inr starts)) ?_
  exact Bool.forall_bool.mpr ⟨.pure, .pure⟩

/-- **A property list ends where nothing continues it.** -/
theorem properties : Detached continuesList (Reader.properties depth) :=
  bind (loop (property hd) .property) fun _ => .pure

end Depth

/-- **What stands inside a bracket is detached**, however many may be open within it. -/
theorem inside (brackets : Nat) : DepthDetached (Reader.inside brackets) := by
  induction brackets with
  | zero => trivial
  | succ brackets ih => exact ⟨path ih, node ih, Progress.node, properties ih⟩

end Detached

end QuerySignature.Reader
