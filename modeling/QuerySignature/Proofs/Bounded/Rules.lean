import QuerySignature.Proofs.Outcome.Run

/-!
# Proofs/Bounded/Rules — readers that stop in front of an end mark

A reader is `Bounded` by a mark if nothing changes for it where the mark is put behind its tokens, with anything
behind it: what it left before, it leaves now, and the mark with the rest.  Readers that look ahead inside brackets
are not bounded by themselves, for a mark may close the bracket; but they are where they leave tokens, because
then the mark stands where no reader looks (`Limited`).  There is one rule for each way to build a reader.
-/

namespace QuerySignature.Reader

variable {α β : Type} {mark : Token} {R : Reader α} {N : α → Reader β} {p q : Token → Bool}

/-- **The reader stops in front of the mark** as at the end of the tokens. -/
def Bounded (mark : Token) (R : Reader α) : Prop :=
  ∀ ⦃tokens rest : List Token⦄ ⦃a : α⦄ (more : List Token), R.read tokens = .done a rest →
    R.read (tokens ++ mark :: more) = .done a (rest ++ mark :: more)

/-- The reader stops where it stopped, if it leaves tokens in front of the mark. -/
def Limited (mark : Token) (R : Reader α) : Prop :=
  ∀ ⦃tokens rest : List Token⦄ ⦃a : α⦄ (more : List Token), R.read tokens = .done a rest → rest ≠ [] →
    R.read (tokens ++ mark :: more) = .done a (rest ++ mark :: more)

/-- The reader comes to nothing at the end of the tokens. -/
def Needs (R : Reader α) : Prop :=
  ∀ ⦃rest : List Token⦄ ⦃a : α⦄, R.read [] ≠ .done a rest

/-! ## Readers that need a token -/

namespace Needs

theorem bind (first : Needs R) : Needs (R >>= N) := by
  intro rest b read
  obtain ⟨a, between, firstRead, -⟩ := bind_done.mp read
  exact first firstRead

/-- The second of two readers needs a token. -/
theorem andThen (next : ∀ a, Needs (N a)) : Needs (R >>= N) := by
  intro rest b read
  obtain ⟨a, between, firstRead, nextRead⟩ := bind_done.mp read
  obtain rfl := List.length_eq_zero_iff.mp (Nat.le_zero.mp (rest_le firstRead))
  exact next a nextRead

theorem require {expected : Expected} : Needs (Reader.require expected p) :=
  fun _ _ read => nomatch (require_done.mp read).1

end Needs

/-! ## Bounded readers -/

namespace Limited

/-- **A reader that tracks itself is limited** by a symbol that ends a part. -/
theorem of_tracks {blocks : α → List Values} {V : α → α → Prop} (ends : mark.isSymbol endMarks = true)
    (tracks : Tracks .same [] blocks V R R) (exact_ : ∀ {a a'}, V a a' → a' = a) : Limited mark R := by
  intro tokens rest a more read some_
  have taken := conserves_done read
  have ahead : Ahead .same rest (rest ++ mark :: more) := by
    rcases rest with _ | ⟨first, _ | ⟨second, others⟩⟩
    · exact absurd rfl some_
    · exact ⟨rfl, .inr (.ended ends)⟩
    · exact ⟨rfl, .inr (.ahead (.some rfl))⟩
  obtain ⟨a', read', related, -⟩ := tracks.done read (respells_same (R.sound tokens)) ahead
  rw [← List.append_assoc, taken] at read'
  rw [read', exact_ related]

end Limited

namespace Bounded

theorem pure {a : α} : Bounded mark (Pure.pure a) := by
  intro tokens rest b more read
  obtain ⟨rfl, rfl⟩ := pure_done.mp read
  rfl

theorem stop {fault : Fault} : Bounded mark (Reader.stop fault : Reader α) :=
  fun _ _ _ _ read => (stop_done.mp read).elim

theorem refuse {expected : Expected} : Bounded mark (Reader.refuse expected : Reader α) :=
  fun _ _ _ _ read => (refuse_done.mp read).elim

/-- **One reader after the other.** -/
theorem bind (first : Bounded mark R) (next : ∀ a, Bounded mark (N a)) : Bounded mark (R >>= N) := by
  intro tokens rest b more read
  obtain ⟨a, between, firstRead, nextRead⟩ := bind_done.mp read
  exact bind_done.mpr ⟨a, _, first more firstRead, next a more nextRead⟩

/-- **A limited reader, and one that needs a token**: the first leaves one. -/
theorem before (first : Limited mark R) (needs : ∀ a, Needs (N a)) (next : ∀ a, Bounded mark (N a)) :
    Bounded mark (R >>= N) := by
  intro tokens rest b more read
  obtain ⟨a, between, firstRead, nextRead⟩ := bind_done.mp read
  have some_ : between ≠ [] := by
    rintro rfl
    exact needs a nextRead
  exact bind_done.mpr ⟨a, _, first more firstRead some_, next a more nextRead⟩

theorem shift {change : Shift} : Bounded mark (Reader.shift change) := by
  intro tokens rest a more read
  cases read
  rfl

/-! ### The next tokens -/

/-- A predicate that does not hold of the mark holds in front of it or not as at the end. -/
theorem head?_any (h : p mark = false) (tokens more : List Token) :
    (tokens ++ mark :: more).head?.any p = tokens.head?.any p := by
  cases tokens with
  | nil => exact h
  | cons token tokens => rfl

theorem next (h : p mark = false) : Bounded mark (Reader.next p) := by
  intro tokens rest b more read
  obtain ⟨rfl, rfl⟩ := next_done.mp read
  exact next_done.mpr ⟨head?_any h tokens more, rfl⟩

theorem nextTwo (h : p mark = false) (h' : q mark = false) : Bounded mark (Reader.nextTwo p q) := by
  intro tokens rest b more read
  cases read
  have same : ((tokens ++ mark :: more).head?.any p && (tokens ++ mark :: more).tail.head?.any q) =
      (tokens.head?.any p && tokens.tail.head?.any q) := by
    cases tokens with
    | nil => simp [h]
    | cons token tokens =>
      rw [List.cons_append, List.tail_cons, List.tail_cons, head?_any h']
      rfl
  exact congrArg (Reading.done · (tokens ++ mark :: more)) same

theorem accept? (h : p mark = false) : Bounded mark (Reader.accept? p) := by
  intro tokens rest found more read
  cases found with
  | none =>
    obtain ⟨rfl, none_⟩ := accept?_none.mp read
    exact accept?_none.mpr ⟨rfl, (head?_any h tokens more).trans none_⟩
  | some token =>
    obtain ⟨rfl, holds⟩ := accept?_some.mp read
    exact accept?_some.mpr ⟨rfl, holds⟩

theorem accept (h : p mark = false) : Bounded mark (Reader.accept p) :=
  bind (accept? h) fun _ => .pure

theorem require {expected : Expected} : Bounded mark (Reader.require expected p) := by
  intro tokens rest token more read
  obtain ⟨rfl, holds⟩ := require_done.mp read
  exact require_done.mpr ⟨rfl, holds⟩

/-! ### Choices -/

variable {M : Bool → Reader β}

/-- A choice between two ways to go on. -/
theorem either {R : Reader Bool} (first : Bounded mark R) (yes : Bounded mark (M true))
    (no : Bounded mark (M false)) : Bounded mark (R >>= M) :=
  bind first fun
    | true => yes
    | false => no

/-- An item to go on with, or none. -/
theorem option {R : Reader (Option α)} {N : Option α → Reader β} (first : Bounded mark R)
    (some : ∀ a, Bounded mark (N (some a))) (none : Bounded mark (N none)) : Bounded mark (R >>= N) :=
  bind first fun
    | .some a => some a
    | .none => none

theorem within {region : Region} (h : Bounded mark R) : Bounded mark (within region R) := h

/-- A reader whose value is an item. -/
theorem found (h : Bounded mark R) : Bounded mark (do return some (← R)) :=
  bind h fun _ => .pure

/-! ### Loops -/

/-- The turns from one on, where the bounds of both runs suffice. -/
theorem loopFrom {turn : Reader (Turn α)} (h : Bounded mark turn) (progress : Progress Turn.GoesOn turn)
    (bound : List Token) :
    ∀ {bound' tokens rest more : List Token} {found list : List α}, tokens.length ≤ bound.length →
      (tokens ++ mark :: more).length ≤ bound'.length →
      (Reader.loopFrom turn bound found).read tokens = .done list rest →
      (Reader.loopFrom turn bound' found).read (tokens ++ mark :: more) = .done list (rest ++ mark :: more) := by
  induction bound with
  | nil =>
    intro bound' tokens rest more found list enough _ read
    rw [loopFrom_eq] at read ⊢
    obtain ⟨turned, between, turnRead, further⟩ := bind_done.mp read
    refine bind_done.mpr ⟨turned, _, h more turnRead, ?_⟩
    cases turned with
    | stop => exact Bounded.pure more further
    | last item => exact Bounded.pure more further
    | more item =>
      obtain ⟨_, _, none_, -⟩ := tail_enough progress enough turnRead
      cases none_
  | cons token bound ih =>
    intro bound' tokens rest more found list enough enough' read
    rw [loopFrom_eq] at read ⊢
    obtain ⟨turned, between, turnRead, further⟩ := bind_done.mp read
    have turnRead' := h more turnRead
    refine bind_done.mpr ⟨turned, _, turnRead', ?_⟩
    cases turned with
    | stop => exact Bounded.pure more further
    | last item => exact Bounded.pure more further
    | more item =>
      obtain ⟨_, _, same, less⟩ := tail_enough progress enough turnRead
      obtain ⟨_, bound', rfl, less'⟩ := tail_enough progress enough' turnRead'
      cases same
      exact ih less less' further

theorem loop {turn : Reader (Turn α)} (h : Bounded mark turn) (progress : Progress Turn.GoesOn turn) :
    Bounded mark (loop turn) :=
  fun tokens _ _ _ read => loopFrom h progress tokens (Nat.le_refl _) (Nat.le_refl _) read

theorem many {item : Reader (Option α)} (h : Bounded mark item) (progress : Progress Found item) :
    Bounded mark (many item) :=
  loop (h.option (fun _ => .pure) .pure) (progress.bind fun found => by
    cases found with
    | some => exact .inl rfl
    | none => exact .inr (.pure id))

end Bounded

end QuerySignature.Reader
