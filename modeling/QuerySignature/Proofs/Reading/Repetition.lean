import QuerySignature.Proofs.Reading.Tracks

/-!
# Proofs/Reading/Repetition — loops side by side

A reader that comes to a certain value has taken a token (`Progress`).  Where this holds of the turns that go
on, the bound of a loop is never reached, so a loop tracks another whose turns track its own
(`loop_tracks`), however many tokens either run has at hand.
-/

namespace QuerySignature.Reader

variable {L : Likeness} {α α' β β' : Type} {P : α → Prop} {P' : α' → Prop} {R : Reader α} {N : α → Reader α'}
  {p q : Token → Bool}

/-! ## Progress -/

/-- **A reader that comes to such a value has taken a token.** -/
def Progress (P : α → Prop) (R : Reader α) : Prop :=
  ∀ ⦃tokens rest : List Token⦄ ⦃a : α⦄, R.read tokens = .done a rest → P a → rest.length < tokens.length

theorem rest_le {tokens rest : List Token} {a : α} (h : R.read tokens = .done a rest) :
    rest.length ≤ tokens.length := by
  rw [← conserves_done h, List.length_append]
  exact Nat.le_add_left _ _

namespace Progress

/-- Of two readers, the first takes a token, or the second does. -/
theorem bind {Q : α → Prop} (first : Progress Q R) (next : ∀ a, Q a ∨ Progress P' (N a)) :
    Progress P' (R >>= N) := by
  intro tokens rest b read holds
  obtain ⟨a, between, firstRead, nextRead⟩ := bind_done.mp read
  rcases next a with took | takes
  · exact Nat.lt_of_le_of_lt (rest_le nextRead) (first firstRead took)
  · exact Nat.lt_of_lt_of_le (takes nextRead holds) (rest_le firstRead)

/-- The first of two readers takes a token. -/
theorem of_first (first : Progress (fun _ => True) R) : Progress P' (R >>= N) :=
  first.bind fun _ => .inl trivial

/-- The second of two readers takes a token. -/
theorem of_second (next : ∀ a, Progress P' (N a)) : Progress P' (R >>= N) :=
  bind (Q := fun _ => False) (fun _ _ _ _ absurd => absurd.elim) fun a => .inr (next a)

theorem pure {a : α} (h : ¬P a) : Progress P (Pure.pure a) := by
  intro tokens rest b read holds
  obtain ⟨rfl, -⟩ := pure_done.mp read
  exact absurd holds h

theorem refuse (expected : Expected) : Progress P (Reader.refuse expected) :=
  fun _ _ _ read => (refuse_done.mp read).elim

theorem accept? : Progress (fun found => found.isSome = true) (Reader.accept? p) := by
  intro tokens rest found read some_
  obtain ⟨token, rfl⟩ := Option.isSome_iff_exists.mp some_
  obtain ⟨rfl, -⟩ := accept?_some.mp read
  exact Nat.lt_succ_self _

theorem acceptTwo? : Progress (fun found => found.isSome = true) (Reader.acceptTwo? p q) := by
  intro tokens rest found read some_
  obtain ⟨pair, rfl⟩ := Option.isSome_iff_exists.mp some_
  obtain ⟨rfl, -⟩ := acceptTwo?_some.mp read
  exact Nat.lt_succ_of_lt (Nat.lt_succ_self _)

theorem accept : Progress (· = true) (Reader.accept p) := by
  intro tokens rest found read holds
  subst holds
  obtain ⟨token, rfl, -⟩ := accept_true.mp read
  exact Nat.lt_succ_self _

theorem require {expected : Expected} : Progress (fun _ => True) (Reader.require expected p) := by
  intro tokens rest token read _
  obtain ⟨rfl, -⟩ := require_done.mp read
  exact Nat.lt_succ_self _

/-- A choice by tokens ahead. -/
theorem choice {M : Bool → Reader α} {R : Reader Bool} (yes : Progress P (M true)) (no : Progress P (M false)) :
    Progress P (R >>= M) :=
  of_second fun b => by
    cases b
    · exact no
    · exact yes

/-- A token that is accepted, or else. -/
theorem orElse {N : Option Token → Reader α} (none : Progress P (N none)) :
    Progress P (Reader.accept? p >>= N) :=
  accept?.bind fun
    | .some _ => .inl rfl
    | .none => .inr none

/-- A token that is accepted, or else. -/
theorem orElse' {M : Bool → Reader α} (no : Progress P (M false)) : Progress P (Reader.accept p >>= M) :=
  accept.bind fun
    | true => .inl rfl
    | false => .inr no

end Progress

/-! ## Loops -/

namespace Turn

/-- The turn goes on. -/
def GoesOn : Turn α → Prop
  | more _ => True
  | _ => False

/-- The blocks of the item that a turn brings. -/
def blocks (f : α → List Values) : Turn α → List Values
  | stop => []
  | last item => f item
  | more item => f item

/-- Turns that end or go on together, with related items. -/
inductive Like (V : α → β → Prop) : Turn α → Turn β → Prop where
  | stop : Like V .stop .stop
  | last {a : α} {a' : β} : V a a' → Like V (.last a) (.last a')
  | more {a : α} {a' : β} : V a a' → Like V (.more a) (.more a')

end Turn

variable {f : α → List Values} {V : α → β → Prop} {turn : Reader (Turn α)} {turn' : Reader (Turn β)}

/-- A turn that goes on leaves less, so the bound on further turns suffices too. -/
theorem tail_enough (progress : Progress Turn.GoesOn turn) {bound tokens rest : List Token} {item : α}
    (enough : tokens.length ≤ bound.length) (read : turn.read tokens = .done (.more item) rest) :
    ∃ token others, bound = token :: others ∧ rest.length ≤ others.length := by
  have less := progress read trivial
  cases bound with
  | nil => exact absurd (Nat.lt_of_lt_of_le less enough) (Nat.not_lt_zero _)
  | cons token others => exact ⟨token, others, rfl, Nat.le_of_lt_succ (Nat.lt_of_lt_of_le less enough)⟩

/-- **The turns from one on**, as a reader; the items found so far are in reverse. -/
def loopFrom (turn : Reader (Turn α)) (bound : List Token) (found : List α) : Reader (List α) where
  read := loopRead turn bound found
  steps := loopSteps turn bound
  shifts := loopShifts turn bound
  conserves := loop_conserves turn bound found
  sound := loop_sound turn bound

/-- What follows a turn. -/
def loopAfter (turn : Reader (Turn α)) (bound : List Token) (found : List α) : Turn α → Reader (List α)
  | .stop => pure found.reverse
  | .last item => pure (item :: found).reverse
  | .more item =>
    match bound with
    | [] => pure (item :: found).reverse
    | _ :: bound => loopFrom turn bound (item :: found)

theorem loopFrom_eq (bound : List Token) (found : List α) :
    loopFrom turn bound found = turn >>= loopAfter turn bound found := by
  have same : ∀ tokens, loopRead turn bound found tokens = (turn >>= loopAfter turn bound found).read tokens ∧
      loopSteps turn bound tokens = (turn >>= loopAfter turn bound found).steps tokens ∧
      loopShifts turn bound tokens = (turn >>= loopAfter turn bound found).shifts tokens := by
    intro tokens
    rw [loopRead, loopSteps, loopShifts, bind_read]
    change _ ∧ _ = turn.steps tokens ++ _ ∧ _ = turn.shifts tokens ++ _
    rcases turn.read tokens with ⟨_ | _ | _, rest⟩ | ⟨fault, rest⟩ <;> cases bound <;> exact ⟨rfl, rfl, rfl⟩
  unfold loopFrom
  obtain ⟨read, steps, shifts⟩ : loopRead turn bound found = (turn >>= loopAfter turn bound found).read ∧
      loopSteps turn bound = (turn >>= loopAfter turn bound found).steps ∧
      loopShifts turn bound = (turn >>= loopAfter turn bound found).shifts :=
    ⟨funext fun tokens => (same tokens).1, funext fun tokens => (same tokens).2.1,
      funext fun tokens => (same tokens).2.2⟩
  cases h : turn >>= loopAfter turn bound found with
  | mk r s l _ _ =>
    rw [h] at read steps shifts
    congr

/-- A turn of each loop, where the turns that may follow are known to track. -/
theorem loopFrom_step (h : Tracks L [] (Turn.blocks f) (Turn.Like V) turn turn')
    {bound bound' tokens out rest' : List Token} {found : List α} {found' : List β}
    (related : List.Forall₂ V found found')
    (further : ∀ {item item' between later}, V item item' → turn.read tokens = .done (.more item) between →
      turn'.read (out ++ rest') = .done (.more item') (later ++ rest') →
      TracksAt L ((item :: found).reverse.flatMap f) (List.flatMap f) (List.Forall₂ V)
        (loopAfter turn bound found (.more item)) (loopAfter turn' bound' found' (.more item')) between later
        rest') :
    TracksAt L (found.reverse.flatMap f) (List.flatMap f) (List.Forall₂ V) (loopFrom turn bound found)
      (loopFrom turn' bound' found') tokens out rest' := by
  have shown : ∀ item, found.reverse.flatMap f ++ f item = (item :: found).reverse.flatMap f := by
    intro item
    rw [List.reverse_cons, List.flatMap_append, List.flatMap_singleton]
  rw [loopFrom_eq, loopFrom_eq]
  refine .bind h fun turned read read' => ?_
  cases turned with
  | stop => exact Tracks.here (.pure (List.append_nil _) (List.rel_reverse related))
  | last like => exact Tracks.here (.pure (shown _) (List.rel_reverse (.cons like related)))
  | more like =>
    rw [Turn.blocks, shown]
    exact further like read read'

/-- The turns from one on track others, where the bounds of both runs suffice. -/
theorem loopFrom_tracks (h : Tracks L [] (Turn.blocks f) (Turn.Like V) turn turn')
    (progress : Progress Turn.GoesOn turn) (progress' : Progress Turn.GoesOn turn') (bound : List Token) :
    ∀ {bound' tokens out rest' : List Token} {found : List α} {found' : List β},
      tokens.length ≤ bound.length → (out ++ rest').length ≤ bound'.length → List.Forall₂ V found found' →
      TracksAt L (found.reverse.flatMap f) (List.flatMap f) (List.Forall₂ V) (loopFrom turn bound found)
        (loopFrom turn' bound' found') tokens out rest' := by
  induction bound with
  | nil =>
    intro bound' tokens out rest' found found' enough _ related
    refine loopFrom_step h related fun _ read _ => ?_
    obtain ⟨_, _, none_, -⟩ := tail_enough progress enough read
    cases none_
  | cons token bound ih =>
    intro bound' tokens out rest' found found' enough enough' related
    refine loopFrom_step h related fun like read read' => ?_
    obtain ⟨_, _, same, less⟩ := tail_enough progress enough read
    obtain ⟨_, bound', rfl, less'⟩ := tail_enough progress' enough' read'
    cases same
    exact ih less less' (.cons like related)

/-- **A loop tracks a loop** whose turns track its own. -/
theorem loop_tracks (h : Tracks L [] (Turn.blocks f) (Turn.Like V) turn turn')
    (progress : Progress Turn.GoesOn turn) (progress' : Progress Turn.GoesOn turn') :
    Tracks L [] (List.flatMap f) (List.Forall₂ V) (loop turn) (loop turn') :=
  fun tokens _ _ => loopFrom_tracks h progress progress' tokens (Nat.le_refl _) (Nat.le_refl _) .nil

/-! ## Items -/

section Items

variable {item : Reader (Option α)} {item' : Reader (Option β)}

/-- The item is there. -/
abbrev Found (found : Option α) : Prop := found.isSome = true

theorem many_tracks (h : Tracks L [] (fun found => (found.map f).getD []) (Option.Rel V) item item')
    (progress : Progress Found item) (progress' : Progress Found item') :
    Tracks L [] (List.flatMap f) (List.Forall₂ V) (many item) (many item') := by
  have goes {γ : Type} {item : Reader (Option γ)} (progress : Progress Found item) :
      Progress Turn.GoesOn (itemTurn item) :=
    progress.bind fun found => by
      cases found with
      | some => exact .inl rfl
      | none => exact .inr (.pure id)
  refine loop_tracks (h.bind fun found => ?_) (goes progress) (goes progress')
  cases found with
  | none => exact .pure rfl .stop
  | some like => exact .pure rfl (.more like)

end Items

section Guarded

variable {item : Reader α} {item' : Reader β}

theorem manyWhile_tracks (hp : Respects p) (h : Tracks L [] f V item item')
    (progress : Progress (fun _ => True) item) (progress' : Progress (fun _ => True) item') :
    Tracks L [] (List.flatMap f) (List.Forall₂ V) (manyWhile p item) (manyWhile p item') :=
  many_tracks
    (.ifNext hp (h.bind fun like => .pure rfl (.some like)) (.pure rfl .none))
    (.choice progress.of_first (.pure nofun)) (.choice progress'.of_first (.pure nofun))

theorem manyUntil_tracks (hp : Respects p) (h : Tracks L [] f V item item')
    (progress : Progress (fun _ => True) item) (progress' : Progress (fun _ => True) item') :
    Tracks L [] (List.flatMap f) (List.Forall₂ V) (manyUntil p item) (manyUntil p item') :=
  many_tracks
    (.ifNext hp (.pure rfl .none) (h.bind fun like => .pure rfl (.some like)))
    (.choice (.pure nofun) progress.of_first) (.choice (.pure nofun) progress'.of_first)

end Guarded

/-! ## Loops that show no block -/

theorem flatMap_nil (list : List α) : (list.flatMap fun _ => ([] : List β)) = [] :=
  List.flatMap_eq_nil_iff.mpr fun _ _ => rfl

theorem loop_plain (h : Plain L (Turn.Like V) turn turn') (progress : Progress Turn.GoesOn turn)
    (progress' : Progress Turn.GoesOn turn') : Plain L (List.Forall₂ V) (loop turn) (loop turn') :=
  (loop_tracks (f := fun _ => []) (h.recount fun turned => by cases turned <;> rfl) progress progress').recount
    fun list => flatMap_nil list

theorem many_plain {item : Reader (Option α)} {item' : Reader (Option β)} (h : Plain L (Option.Rel V) item item')
    (progress : Progress Found item) (progress' : Progress Found item') :
    Plain L (List.Forall₂ V) (many item) (many item') :=
  (many_tracks (f := fun _ => []) (h.recount fun found => by cases found <;> rfl) progress progress').recount
    fun list => flatMap_nil list

theorem manyWhile_plain {item : Reader α} {item' : Reader β} (hp : Respects p) (h : Plain L V item item')
    (progress : Progress (fun _ => True) item) (progress' : Progress (fun _ => True) item') :
    Plain L (List.Forall₂ V) (manyWhile p item) (manyWhile p item') :=
  (manyWhile_tracks hp h progress progress').recount fun list => flatMap_nil list

theorem manyUntil_plain {item : Reader α} {item' : Reader β} (hp : Respects p) (h : Plain L V item item')
    (progress : Progress (fun _ => True) item) (progress' : Progress (fun _ => True) item') :
    Plain L (List.Forall₂ V) (manyUntil p item) (manyUntil p item') :=
  (manyUntil_tracks hp h progress progress').recount fun list => flatMap_nil list

end QuerySignature.Reader
