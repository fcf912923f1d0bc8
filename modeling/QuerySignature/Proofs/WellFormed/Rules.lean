import QuerySignature.Proofs.Orderly.Rules

/-!
# Proofs/WellFormed/Rules — what holds of all that a reader comes to

`Yields` says of a reader that whatever it comes to satisfies a predicate.  Unlike `Orderly` it says nothing of
the tokens or of a run that stops.  There is one rule for each way to build a reader; nothing need be known of a
reader whose value only decides how to go on.
-/

namespace QuerySignature.Reader

variable {α β : Type} {P : α → Prop} {Q : β → Prop} {R : Reader α} {N : α → Reader β}

/-- **Whatever the reader comes to** satisfies the predicate. -/
def Yields (P : α → Prop) (R : Reader α) : Prop :=
  ∀ ⦃tokens rest : List Token⦄ ⦃a : α⦄, R.read tokens = .done a rest → P a

namespace Yields

theorem pure {a : α} (h : P a) : Yields P (Pure.pure a) := by
  intro tokens rest b read
  obtain ⟨rfl, -⟩ := pure_done.mp read
  exact h

theorem stop {fault : Fault} : Yields P (Reader.stop fault) :=
  fun _ _ _ read => (stop_done.mp read).elim

theorem refuse {expected : Expected} : Yields P (Reader.refuse expected) :=
  fun _ _ _ read => (refuse_done.mp read).elim

/-- **One reader after the other.** -/
theorem bind (first : Yields P R) (next : ∀ {a}, P a → Yields Q (N a)) : Yields Q (R >>= N) := by
  intro tokens rest b read
  obtain ⟨a, between, firstRead, nextRead⟩ := bind_done.mp read
  exact next (first firstRead) nextRead

/-- A reader after one of whose value nothing need be known. -/
theorem andThen (next : ∀ a, Yields Q (N a)) : Yields Q (R >>= N) :=
  bind  (fun _ _ _ _ => trivial) fun {a} _ => next a

theorem mono {P' : α → Prop} (h : Yields P R) (imp : ∀ {a}, P a → P' a) : Yields P' R :=
  fun _ _ _ read => imp (h read)

/-- A reader whose value is an item. -/
theorem found (h : Yields P R) : Yields (Given P) (do return some (← R)) :=
  bind h fun holds => .pure holds

/-- A choice between two ways to go on. -/
theorem either {R : Reader Bool} {M : Bool → Reader β} (yes : Yields Q (M true)) (no : Yields Q (M false)) :
    Yields Q (R >>= M) :=
  andThen fun
    | true => yes
    | false => no

/-- An item to go on with, or none. -/
theorem option {R : Reader (Option α)} {N : Option α → Reader β} (some : ∀ a, Yields Q (N (some a)))
    (none : Yields Q (N none)) : Yields Q (R >>= N) :=
  andThen fun
    | .some a => some a
    | .none => none

/-! ## Loops -/

/-- The turns from one on. -/
theorem loopFrom {turn : Reader (Turn α)} (h : Yields (Turn.Given P) turn) (bound : List Token) :
    ∀ {found : List α}, (∀ item ∈ found, P item) →
      Yields (fun list => ∀ item ∈ list, P item) (loopFrom turn bound found) := by
  have done {list : List α} (all : ∀ item ∈ list, P item) :
      Yields (fun list => ∀ item ∈ list, P item) (Pure.pure list.reverse) :=
    .pure fun item member => all item (List.mem_reverse.mp member)
  induction bound with
  | nil =>
    intro found all
    rw [loopFrom_eq]
    refine h.bind fun {turned} given => ?_
    cases turned with
    | stop => exact done all
    | last item => exact done (List.forall_mem_cons.mpr ⟨given, all⟩)
    | more item => exact done (List.forall_mem_cons.mpr ⟨given, all⟩)
  | cons token bound ih =>
    intro found all
    rw [loopFrom_eq]
    refine h.bind fun {turned} given => ?_
    cases turned with
    | stop => exact done all
    | last item => exact done (List.forall_mem_cons.mpr ⟨given, all⟩)
    | more item => exact ih (List.forall_mem_cons.mpr ⟨given, all⟩)

/-- **A loop yields items** of which holds what holds of the items its turns bring. -/
theorem loop {turn : Reader (Turn α)} (h : Yields (Turn.Given P) turn) :
    Yields (fun list => ∀ item ∈ list, P item) (loop turn) :=
  fun tokens _ _ read => loopFrom h tokens (List.forall_mem_nil P) read

/-- A loop that found something, or whose turns all bring an item, has an item. -/
theorem loopFrom_ne_nil {turn : Reader (Turn α)} (bound : List Token) {found : List α}
    (h : found ≠ [] ∨ Yields (· ≠ .stop) turn) : Yields (· ≠ []) (Reader.loopFrom turn bound found) := by
  have done (item : α) : Yields (· ≠ []) (Pure.pure (item :: found).reverse) :=
    .pure fun none_ => List.cons_ne_nil _ _ (List.reverse_eq_nil_iff.mp none_)
  intro tokens rest list read
  rw [loopFrom_eq] at read
  obtain ⟨turned, between, turnRead, further⟩ := bind_done.mp read
  cases turned with
  | stop =>
    obtain some_ | never := h
    · obtain ⟨rfl, -⟩ := pure_done.mp further
      exact fun none_ => some_ (List.reverse_eq_nil_iff.mp none_)
    · exact absurd rfl (never turnRead)
  | last item => exact done item further
  | more item =>
    cases bound with
    | nil => exact done item further
    | cons token bound => exact loopFrom_ne_nil bound (.inl (List.cons_ne_nil _ _)) further

/-- A loop whose turns all bring an item has an item. -/
theorem loop_ne_nil {turn : Reader (Turn α)} (h : Yields (· ≠ .stop) turn) : Yields (· ≠ []) (Reader.loop turn) :=
  fun tokens _ _ read => loopFrom_ne_nil tokens (.inr h) read

section Items

variable {item : Reader (Option α)} {each : Reader α} {p : Token → Bool}

theorem many (h : Yields (Given P) item) : Yields (fun list => ∀ item ∈ list, P item) (many item) :=
  loop (h.bind fun {found} given => by
    cases found with
    | none => exact .pure trivial
    | some a => exact .pure given)

theorem manyWhile (h : Yields P each) : Yields (fun list => ∀ item ∈ list, P item) (manyWhile p each) :=
  many (.either h.found (.pure trivial))

theorem manyUntil (h : Yields P each) : Yields (fun list => ∀ item ∈ list, P item) (manyUntil p each) :=
  many (.either (.pure trivial) h.found)

end Items

/-! ## Marks on the way -/

theorem taking (h : Yields P R) : Yields (fun taken => P taken.2) (taking R) := by
  intro tokens rest taken read
  unfold Reader.taking at read
  dsimp only at read
  cases inner : R.read tokens with
  | stopped fault rest => rw [inner] at read; cases read
  | done a rest =>
    rw [inner] at read
    obtain ⟨rfl, -⟩ := Reading.done.inj read
    exact h inner

theorem within {region : Region} (h : Yields P R) : Yields P (within region R) := h

end Yields

end QuerySignature.Reader
