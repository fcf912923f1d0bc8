import QuerySignature.Proofs.Reading.Repetition

/-!
# Proofs/Reading/Unrolled — a loop is its first turn and the loop behind it

The bound of a loop only makes it end: turns that go on take a token, so the tokens at hand are bound enough
(`loopFrom_bound`).  A loop can therefore be unrolled turn by turn (`loop_unroll`, `many_unroll`), and what holds of
a loop follows by induction on the tokens at hand.
-/

namespace QuerySignature.Reader

variable {α : Type} {turn : Reader (Turn α)} {item : Reader (Option α)} {tokens rest : List Token}

/-- What is found by further turns stands behind what has been found. -/
def Reading.behind (found : List α) : Reading (List α) → Reading (List α)
  | .done list rest => .done (found ++ list) rest
  | .stopped fault rest => .stopped fault rest

/-- What has been found before makes no difference to the turns that follow. -/
theorem loopFrom_found (bound : List Token) : ∀ {tokens : List Token} {found : List α},
    (loopFrom turn bound found).read tokens = Reading.behind found.reverse ((loopFrom turn bound []).read tokens) := by
  induction bound with
  | nil =>
    intro tokens found
    rw [loopFrom_eq, loopFrom_eq, bind_read, bind_read]
    rcases turn.read tokens with ⟨_ | item | item, rest⟩ | ⟨fault, rest⟩
    · exact congrArg (Reading.done · rest) (List.append_nil _).symm
    · exact congrArg (Reading.done · rest) List.reverse_cons
    · exact congrArg (Reading.done · rest) List.reverse_cons
    · rfl
  | cons token bound ih =>
    intro tokens found
    rw [loopFrom_eq, loopFrom_eq, bind_read, bind_read]
    rcases turn.read tokens with ⟨_ | item | item, rest⟩ | ⟨fault, rest⟩
    · exact congrArg (Reading.done · rest) (List.append_nil _).symm
    · exact congrArg (Reading.done · rest) List.reverse_cons
    · change (loopFrom turn bound (item :: found)).read rest =
        Reading.behind found.reverse ((loopFrom turn bound [item]).read rest)
      rw [ih, @ih rest [item]]
      cases (loopFrom turn bound []).read rest with
      | done list left =>
        refine congrArg (Reading.done · left) ?_
        rw [List.reverse_cons, List.append_assoc]
        rfl
      | stopped fault left => rfl
    · rfl

/-- **Bounds that suffice make no difference.** -/
theorem loopFrom_bound (progress : Progress Turn.GoesOn turn) (bound : List Token) :
    ∀ {bound' tokens : List Token}, tokens.length ≤ bound.length → tokens.length ≤ bound'.length →
      (loopFrom turn bound []).read tokens = (loopFrom turn bound' []).read tokens := by
  induction bound with
  | nil =>
    intro bound' tokens enough _
    rw [loopFrom_eq, loopFrom_eq, bind_read, bind_read]
    cases read : turn.read tokens with
    | stopped fault rest => rfl
    | done turned rest =>
      cases turned with
      | stop => rfl
      | last item => rfl
      | more item =>
        obtain ⟨_, _, none_, -⟩ := tail_enough progress enough read
        cases none_
  | cons token bound ih =>
    intro bound' tokens enough enough'
    rw [loopFrom_eq, loopFrom_eq, bind_read, bind_read]
    cases read : turn.read tokens with
    | stopped fault rest => rfl
    | done turned rest =>
      cases turned with
      | stop => rfl
      | last item => rfl
      | more item =>
        obtain ⟨_, _, same, less⟩ := tail_enough progress enough read
        obtain ⟨_, others, rfl, less'⟩ := tail_enough progress enough' read
        cases same
        change (loopFrom turn bound [item]).read rest = (loopFrom turn others [item]).read rest
        rw [loopFrom_found, ih less less', ← loopFrom_found]

/-- What a loop comes to behind its first turn. -/
def afterTurn (turn : Reader (Turn α)) : Turn α → Reader (List α)
  | .stop => pure []
  | .last item => pure [item]
  | .more item => return item :: (← loop turn)

/-- **A loop is its first turn, and the loop behind it if the turn goes on.** -/
theorem loop_unroll (progress : Progress Turn.GoesOn turn) (tokens : List Token) :
    (loop turn).read tokens = (turn >>= afterTurn turn).read tokens := by
  change (loopFrom turn tokens []).read tokens = _
  rw [loopFrom_eq, bind_read, bind_read]
  cases read : turn.read tokens with
  | stopped fault rest => rfl
  | done turned rest =>
    cases turned with
    | stop => rfl
    | last item => rfl
    | more item =>
      obtain ⟨token, others, rfl, less⟩ := tail_enough progress (Nat.le_refl _) read
      change (loopFrom turn others [item]).read rest = _
      rw [loopFrom_found, @loopFrom_bound _ _ progress others rest rest less (Nat.le_refl _)]
      change Reading.behind [item] ((loop turn).read rest) = (loop turn >>= fun list => pure (item :: list)).read rest
      rw [bind_read]
      cases (loop turn).read rest <;> rfl

/-! ## Items -/

theorem goesOn_itemTurn (progress : Progress Found item) : Progress Turn.GoesOn (itemTurn item) :=
  progress.bind fun found => by
    cases found with
    | some => exact .inl rfl
    | none => exact .inr (.pure id)

/-- **No item, or one and the items behind it.** -/
theorem many_unroll (progress : Progress Found item) (tokens : List Token) :
    (many item).read tokens =
      (item >>= fun
        | none => pure []
        | some a => return a :: (← many item)).read tokens := by
  rw [many, loop_unroll (goesOn_itemTurn progress), itemTurn]
  rw [bind_read, bind_read, bind_read]
  rcases item.read tokens with ⟨_ | a, rest⟩ | ⟨fault, rest⟩ <;> rfl

/-- **Items are none, or one and the items behind it.** -/
theorem many_done {list : List α} (progress : Progress Found item) :
    (many item).read tokens = .done list rest ↔
      (list = [] ∧ item.read tokens = .done none rest) ∨
        ∃ a others between, list = a :: others ∧ item.read tokens = .done (some a) between ∧
          (many item).read between = .done others rest := by
  rw [many_unroll progress, bind_done]
  constructor
  · rintro ⟨_ | a, between, first, further⟩
    · obtain ⟨rfl, rfl⟩ := pure_done.mp further
      exact .inl ⟨rfl, first⟩
    · obtain ⟨others, behind, read, gives⟩ := bind_done.mp further
      obtain ⟨rfl, rfl⟩ := pure_done.mp gives
      exact .inr ⟨a, others, between, rfl, first, read⟩
  · rintro (⟨rfl, none_⟩ | ⟨a, others, between, rfl, first, read⟩)
    · exact ⟨none, rest, none_, rfl⟩
    · exact ⟨some a, between, first, bind_done.mpr ⟨others, rest, read, rfl⟩⟩

end QuerySignature.Reader
