import QuerySignature.Proofs.Triples.Detached

/-!
# Proofs/Origin/Rules — what a reader comes to among given tokens

`YieldsFrom whole` says of a reader that whatever it comes to satisfies a predicate, where it starts at one of the
tokens `whole` and the tokens behind that one are what is left.  Each reader leaves the last of the tokens it is given,
so the readers behind it start there too: there is one rule for each way to build a reader.  `Occurs` is what such
predicates speak of, that a rule of the grammar reads an item somewhere in the tokens.
-/

namespace QuerySignature.Reader

variable {α β : Type} {whole : List Token} {deepest : Nat} {P : α → Prop} {Q : β → Prop} {R : Reader α}
  {N : α → Reader β} {tokens rest : List Token}

/-- **Somewhere in the tokens the rule reads the item**, with no more brackets than may be open. -/
inductive Occurs (whole : List Token) (deepest : Nat) (rule : Option Inside → Reader α) (a : α) : Prop where
  | at {brackets : Nat} {before taken behind : List Token} : brackets ≤ deepest →
      whole = before ++ (taken ++ behind) → (rule (inside brackets)).read (taken ++ behind) = .done a behind →
      Occurs whole deepest rule a

/-- What a rule reads from one of the tokens on occurs in them. -/
theorem Occurs.of_suffix {rule : Option Inside → Reader α} {a : α} {brackets : Nat} (within : brackets ≤ deepest)
    (last : tokens <:+ whole) (read : (rule (inside brackets)).read tokens = .done a rest) :
    Occurs whole deepest rule a := by
  obtain ⟨before, rfl⟩ := last
  obtain ⟨taken, rfl⟩ := exists_taken read
  exact .at within rfl read

/-- A reader leaves the last of its tokens. -/
theorem suffix_of_read {a : α} (last : tokens <:+ whole) (read : R.read tokens = .done a rest) : rest <:+ whole := by
  obtain ⟨taken, rfl⟩ := exists_taken read
  exact (List.suffix_append taken rest).trans last

/-- **Whatever the reader comes to from one of the tokens on** satisfies the predicate. -/
def YieldsFrom (whole : List Token) (P : α → Prop) (R : Reader α) : Prop :=
  ∀ ⦃tokens rest : List Token⦄ ⦃a : α⦄, tokens <:+ whole → R.read tokens = .done a rest → P a

namespace YieldsFrom

theorem pure {a : α} (h : P a) : YieldsFrom whole P (Pure.pure a) := by
  intro tokens rest b _ read
  obtain ⟨rfl, -⟩ := pure_done.mp read
  exact h

theorem stop {fault : Fault} : YieldsFrom whole P (Reader.stop fault) :=
  fun _ _ _ _ read => (stop_done.mp read).elim

theorem refuse {expected : Expected} : YieldsFrom whole P (Reader.refuse expected) :=
  fun _ _ _ _ read => (refuse_done.mp read).elim

/-- **One reader after the other**: the second starts where the first stops. -/
theorem bind (first : YieldsFrom whole P R) (next : ∀ {a}, P a → YieldsFrom whole Q (N a)) :
    YieldsFrom whole Q (R >>= N) := by
  intro tokens rest b last read
  obtain ⟨a, between, firstRead, nextRead⟩ := bind_done.mp read
  exact next (first last firstRead) (suffix_of_read last firstRead) nextRead

/-- A reader after one of whose value nothing need be known. -/
theorem andThen (next : ∀ a, YieldsFrom whole Q (N a)) : YieldsFrom whole Q (R >>= N) :=
  bind (fun _ _ _ _ _ => trivial) fun {a} _ => next a

theorem mono {P' : α → Prop} (h : YieldsFrom whole P R) (imp : ∀ {a}, P a → P' a) : YieldsFrom whole P' R :=
  fun _ _ _ last read => imp (h last read)

theorem and {P' : α → Prop} (h : YieldsFrom whole P R) (h' : YieldsFrom whole P' R) :
    YieldsFrom whole (fun a => P a ∧ P' a) R :=
  fun _ _ _ last read => ⟨h last read, h' last read⟩

/-- A reader whose value is an item. -/
theorem found (h : YieldsFrom whole P R) : YieldsFrom whole (Given P) (do return some (← R)) :=
  bind h fun holds => .pure holds

/-- A choice between two ways to go on. -/
theorem either {R : Reader Bool} {M : Bool → Reader β} (yes : YieldsFrom whole Q (M true))
    (no : YieldsFrom whole Q (M false)) : YieldsFrom whole Q (R >>= M) :=
  andThen fun
    | true => yes
    | false => no

/-- An item to go on with, or none. -/
theorem option {R : Reader (Option α)} {N : Option α → Reader β} (some : ∀ a, YieldsFrom whole Q (N (some a)))
    (none : YieldsFrom whole Q (N none)) : YieldsFrom whole Q (R >>= N) :=
  andThen fun
    | .some a => some a
    | .none => none

/-! ## Loops -/

/-- The turns from one on. -/
theorem loopFrom {turn : Reader (Turn α)} (h : YieldsFrom whole (Turn.Given P) turn) (bound : List Token) :
    ∀ {found : List α}, (∀ item ∈ found, P item) →
      YieldsFrom whole (fun list => ∀ item ∈ list, P item) (Reader.loopFrom turn bound found) := by
  have done {list : List α} (all : ∀ item ∈ list, P item) :
      YieldsFrom whole (fun list => ∀ item ∈ list, P item) (Pure.pure list.reverse) :=
    .pure fun item member => all item (List.mem_reverse.mp member)
  induction bound with
  | nil =>
    intro found all
    rw [loopFrom_eq]
    refine h.bind fun {turned} given => ?_
    cases turned with
    | stop => exact done all
    | last item => exact done (List.forall_mem_cons.mpr ⟨given, all⟩)
    | more item => exact done (List.forall_mem_cons.mpr ⟨given, all⟩)
  | cons token bound ih =>
    intro found all
    rw [loopFrom_eq]
    refine h.bind fun {turned} given => ?_
    cases turned with
    | stop => exact done all
    | last item => exact done (List.forall_mem_cons.mpr ⟨given, all⟩)
    | more item => exact ih (List.forall_mem_cons.mpr ⟨given, all⟩)

/-- **A loop yields items** of which holds what holds of the items its turns bring. -/
theorem loop {turn : Reader (Turn α)} (h : YieldsFrom whole (Turn.Given P) turn) :
    YieldsFrom whole (fun list => ∀ item ∈ list, P item) (Reader.loop turn) :=
  fun tokens _ _ last read => loopFrom h tokens (List.forall_mem_nil P) last read

section Items

variable {item : Reader (Option α)} {each : Reader α} {p : Token → Bool}

theorem many (h : YieldsFrom whole (Given P) item) :
    YieldsFrom whole (fun list => ∀ item ∈ list, P item) (Reader.many item) :=
  loop (h.bind fun {found} given => by
    cases found with
    | none => exact .pure trivial
    | some a => exact .pure given)

theorem manyWhile (h : YieldsFrom whole P each) :
    YieldsFrom whole (fun list => ∀ item ∈ list, P item) (Reader.manyWhile p each) :=
  many (.either h.found (.pure trivial))

theorem manyUntil (h : YieldsFrom whole P each) :
    YieldsFrom whole (fun list => ∀ item ∈ list, P item) (Reader.manyUntil p each) :=
  many (.either (.pure trivial) h.found)

end Items

/-! ## Marks on the way -/

theorem taking (h : YieldsFrom whole P R) : YieldsFrom whole (fun taken => P taken.2) (Reader.taking R) := by
  intro tokens rest taken last read
  unfold Reader.taking at read
  dsimp only at read
  cases inner : R.read tokens with
  | stopped fault rest => rw [inner] at read; cases read
  | done a rest =>
    rw [inner] at read
    obtain ⟨rfl, -⟩ := Reading.done.inj read
    exact h last inner

theorem within {region : Region} (h : YieldsFrom whole P R) : YieldsFrom whole P (Reader.within region R) := h

/-- **What a rule reads occurs in the tokens.** -/
theorem occurs {rule : Option Inside → Reader α} {brackets : Nat} (within : brackets ≤ deepest) :
    YieldsFrom whole (Occurs whole deepest rule) (rule (inside brackets)) :=
  fun _ _ _ last read => .of_suffix within last read

end YieldsFrom

end QuerySignature.Reader
