import QuerySignature.Reading.Basic

/-!
# Reading/Inversion — what a successful reading has found

Each lemma says of one way to build a reader when it comes to a value, and with which tokens left.  A loop
whose items are written by the tokens they take reads a sequence of such items (`loop_writes`).
-/

namespace QuerySignature.Reader

variable {α β : Type} {tokens rest : List Token} {p q : Token → Bool}

@[simp]
theorem pure_read (a : α) (tokens : List Token) : (pure a : Reader α).read tokens = .done a tokens := rfl

@[simp]
theorem stop_read (fault : Fault) (tokens : List Token) : (stop fault : Reader α).read tokens = .stopped fault tokens :=
  rfl

theorem bind_read (first : Reader α) (next : α → Reader β) (tokens : List Token) :
    (first >>= next).read tokens =
      match first.read tokens with
      | .done a rest => (next a).read rest
      | .stopped fault rest => .stopped fault rest := rfl

@[simp]
theorem pure_done {a b : α} : (pure a : Reader α).read tokens = .done b rest ↔ a = b ∧ tokens = rest := by
  rw [pure_read, Reading.done.injEq]

@[simp]
theorem stop_done {fault : Fault} {a : α} : (stop fault : Reader α).read tokens = .done a rest ↔ False := by
  rw [stop_read]
  exact iff_of_false (fun h => nomatch h) id

theorem bind_done {first : Reader α} {next : α → Reader β} {b : β} :
    (first >>= next).read tokens = .done b rest ↔
      ∃ a between, first.read tokens = .done a between ∧ (next a).read between = .done b rest := by
  rw [bind_read]
  cases first.read tokens with
  | done a between =>
    refine ⟨fun h => ⟨a, between, rfl, h⟩, ?_⟩
    rintro ⟨_, _, same, h⟩
    cases same
    exact h
  | stopped fault between =>
    refine iff_of_false (fun h => nomatch h) ?_
    rintro ⟨_, _, same, -⟩
    cases same

theorem bind_stopped {first : Reader α} {next : α → Reader β} {fault : Fault} :
    (first >>= next).read tokens = .stopped fault rest ↔
      first.read tokens = .stopped fault rest ∨
        ∃ a between, first.read tokens = .done a between ∧ (next a).read between = .stopped fault rest := by
  rw [bind_read]
  cases first.read tokens with
  | stopped fault between =>
    -- the two readings are of different types
    refine ⟨fun h => .inl (by cases h; rfl), ?_⟩
    rintro (same | ⟨_, _, same, -⟩) <;> cases same
    rfl
  | done a between =>
    refine ⟨fun h => .inr ⟨a, between, rfl, h⟩, fun h => h.elim (fun same => nomatch same) ?_⟩
    rintro ⟨_, _, same, h⟩
    cases same
    exact h

theorem peek_read (tokens : List Token) : peek.read tokens = .done tokens.head? tokens := rfl

theorem next_read (p : Token → Bool) (tokens : List Token) :
    (next p).read tokens = .done (tokens.head?.any p) tokens := rfl

theorem next_done {b : Bool} : (next p).read tokens = .done b rest ↔ tokens.head?.any p = b ∧ tokens = rest := by
  rw [next_read, Reading.done.injEq]

theorem accept?_some {token : Token} :
    (accept? p).read tokens = .done (some token) rest ↔ tokens = token :: rest ∧ p token = true := by
  cases tokens with
  | nil => simp [accept?]
  | cons first others =>
    by_cases h : p first = true
    · simp only [accept?, h, if_true, Reading.done.injEq, Option.some.injEq, List.cons.injEq]
      refine ⟨?_, fun both => both.1⟩
      rintro ⟨rfl, rfl⟩
      exact ⟨⟨rfl, rfl⟩, h⟩
    · have missed : (accept? p).read (first :: others) = .done none (first :: others) := if_neg h
      refine iff_of_false (fun read => ?_) ?_
      · rw [missed] at read
        cases read
      · rintro ⟨same, yes⟩
        cases same
        exact h yes

theorem accept?_none :
    (accept? p).read tokens = .done none rest ↔ tokens = rest ∧ tokens.head?.any p = false := by
  cases tokens with
  | nil => simp [accept?]
  | cons first others =>
    by_cases h : p first = true <;> simp [accept?, h]

theorem accept?_stopped {fault : Fault} : (accept? p).read tokens ≠ .stopped fault rest := by
  cases tokens with
  | nil => exact nofun
  | cons first others => by_cases h : p first = true <;> simp [accept?, h]

/-- Where the next two tokens do not satisfy the predicates, none is taken. -/
theorem acceptTwo?_missed (h : ¬(tokens.head?.any p && tokens.tail.head?.any q) = true) :
    (acceptTwo? p q).read tokens = .done none tokens ∧ (acceptTwo? p q).steps tokens = [] := by
  rcases tokens with _ | ⟨a, _ | ⟨b, others⟩⟩
  · exact ⟨rfl, rfl⟩
  · exact ⟨rfl, rfl⟩
  · exact ⟨if_neg h, if_neg h⟩

/-- Where they do, both are taken. -/
theorem acceptTwo?_found {a b : Token} {others : List Token} (h : (p a && q b) = true) :
    (acceptTwo? p q).read (a :: b :: others) = .done (some (a, b)) others ∧
      (acceptTwo? p q).steps (a :: b :: others) = [.token a, .token b] :=
  ⟨if_pos h, if_pos h⟩

/-- The next two tokens, where they satisfy the predicates. -/
theorem exists_two (h : (tokens.head?.any p && tokens.tail.head?.any q) = true) :
    ∃ a b others, tokens = a :: b :: others ∧ (p a && q b) = true := by
  rcases tokens with _ | ⟨a, _ | ⟨b, others⟩⟩
  · cases h
  · rw [List.tail_cons, List.head?_nil, Option.any_none, Bool.and_false] at h
    cases h
  · exact ⟨a, b, others, rfl, h⟩

theorem acceptTwo?_some {first second : Token} :
    (acceptTwo? p q).read tokens = .done (some (first, second)) rest ↔
      tokens = first :: second :: rest ∧ p first = true ∧ q second = true := by
  rw [← Bool.and_eq_true]
  constructor
  · intro read
    by_cases h : (tokens.head?.any p && tokens.tail.head?.any q) = true
    · obtain ⟨a, b, others, rfl, both⟩ := exists_two h
      rw [(acceptTwo?_found both).1] at read
      cases read
      exact ⟨rfl, both⟩
    · rw [(acceptTwo?_missed h).1] at read
      cases read
  · rintro ⟨rfl, both⟩
    exact (acceptTwo?_found both).1

theorem acceptTwo?_stopped {fault : Fault} : (acceptTwo? p q).read tokens ≠ .stopped fault rest := by
  by_cases h : (tokens.head?.any p && tokens.tail.head?.any q) = true
  · obtain ⟨a, b, others, rfl, both⟩ := exists_two h
    rw [(acceptTwo?_found both).1]
    exact nofun
  · rw [(acceptTwo?_missed h).1]
    exact nofun

theorem acceptTwo?_none (read : (acceptTwo? p q).read tokens = .done none rest) : tokens = rest := by
  by_cases h : (tokens.head?.any p && tokens.tail.head?.any q) = true
  · obtain ⟨a, b, others, rfl, both⟩ := exists_two h
    rw [(acceptTwo?_found both).1] at read
    cases read
  · rw [(acceptTwo?_missed h).1] at read
    exact (Reading.done.inj read).2

theorem refuse_done {expected : Expected} {a : α} :
    (refuse expected : Reader α).read tokens = .done a rest ↔ False :=
  iff_of_false (fun h => nomatch h) id

theorem require_done {expected : Expected} {token : Token} :
    (require expected p).read tokens = .done token rest ↔ tokens = token :: rest ∧ p token = true := by
  rw [require, bind_done]
  constructor
  · rintro ⟨_ | found, between, accepted, h⟩
    · exact (refuse_done.mp h).elim
    · obtain ⟨rfl, rfl⟩ := pure_done.mp h
      exact accept?_some.mp accepted
  · intro h
    exact ⟨some token, rest, accept?_some.mpr h, rfl⟩

theorem accept_true :
    (accept p).read tokens = .done true rest ↔ ∃ token, tokens = token :: rest ∧ p token = true := by
  rw [accept, bind_done]
  constructor
  · rintro ⟨_ | token, between, accepted, h⟩
    · cases (pure_done.mp h).1
    · obtain ⟨-, rfl⟩ := pure_done.mp h
      exact ⟨token, accept?_some.mp accepted⟩
  · rintro ⟨token, h⟩
    exact ⟨some token, rest, accept?_some.mpr h, rfl⟩

theorem accept_false :
    (accept p).read tokens = .done false rest ↔ tokens = rest ∧ tokens.head?.any p = false := by
  rw [accept, bind_done]
  constructor
  · rintro ⟨_ | token, between, accepted, h⟩
    · obtain ⟨-, rfl⟩ := pure_done.mp h
      exact accept?_none.mp accepted
    · cases (pure_done.mp h).1
  · intro h
    exact ⟨none, rest, accept?_none.mpr h, rfl⟩

theorem valued_done {term : Except Unreadable α} {a : α} :
    (valued term).read tokens = .done a rest ↔ term = .ok a ∧ tokens = rest := by
  cases term with
  | ok b => simp [valued]
  | error fault => simp [valued]

/-! ## Loops -/

/-- **A loop reads a sequence**, if each turn reads an item of it. -/
theorem many_writes {written : List Token → α → Prop} {item : Reader (Option α)}
    (h : ∀ {tokens a rest}, item.read tokens = .done a rest →
      ∃ taken, tokens = taken ++ rest ∧ ∀ b, a = some b → written taken b)
    (empty : ∀ {tokens rest}, item.read tokens = .done none rest → tokens = rest) :
    Writes (IsSequence written) (many item) := by
  intro tokens list rest read
  -- the items found so far are in reverse
  suffices further : ∀ (bound tokens : List Token) (found : List α),
      loopRead (itemTurn item) bound found tokens = .done list rest →
      ∃ taken later, tokens = taken ++ rest ∧ list = found.reverse ++ later ∧ IsSequence written taken later by
    obtain ⟨taken, later, whole, rfl, sequence⟩ := further tokens tokens [] read
    exact ⟨taken, whole, sequence⟩
  intro bound
  induction bound with
  | nil =>
    intro tokens found read
    rw [loopRead, itemTurn, bind_read] at read
    cases at_ : item.read tokens with
    | stopped fault between => rw [at_] at read; cases read
    | done a between =>
      rw [at_] at read
      cases a with
      | none =>
        obtain ⟨rfl, rfl⟩ := Reading.done.inj read
        exact ⟨[], [], empty at_, (List.append_nil _).symm, .nil⟩
      | some a =>
        obtain ⟨rfl, rfl⟩ := Reading.done.inj read
        obtain ⟨taken, whole, writes⟩ := h at_
        refine ⟨taken ++ [], [a], by rw [List.append_nil]; exact whole, List.reverse_cons, ?_⟩
        exact .cons (writes a rfl) .nil
  | cons token bound ih =>
    intro tokens found read
    rw [loopRead, itemTurn, bind_read] at read
    cases at_ : item.read tokens with
    | stopped fault between => rw [at_] at read; cases read
    | done a between =>
      rw [at_] at read
      cases a with
      | none =>
        obtain ⟨rfl, rfl⟩ := Reading.done.inj read
        exact ⟨[], [], empty at_, (List.append_nil _).symm, .nil⟩
      | some a =>
        obtain ⟨later, list', whole', rfl, sequence⟩ := ih between (a :: found) read
        obtain ⟨taken, whole, writes⟩ := h at_
        refine ⟨taken ++ later, a :: list', ?_, ?_, .cons (writes a rfl) sequence⟩
        · rw [whole, whole', List.append_assoc]
        · rw [List.reverse_cons, List.append_assoc]
          rfl

/-- Items up to a token are a sequence. -/
theorem manyUntil_writes {written : List Token → α → Prop} {item : Reader α} (h : Writes written item) :
    Writes (IsSequence written) (manyUntil p item) := by
  refine many_writes (fun read => ?_) fun read => ?_
  · obtain ⟨stops, between, ahead, read⟩ := bind_done.mp read
    obtain ⟨-, rfl⟩ := next_done.mp ahead
    cases stops with
    | true =>
      obtain ⟨rfl, rfl⟩ := pure_done.mp read
      exact ⟨[], rfl, fun b none_ => nomatch none_⟩
    | false =>
      rw [if_neg Bool.false_ne_true] at read
      obtain ⟨a, between, first, same⟩ := bind_done.mp read
      obtain ⟨rfl, rfl⟩ := pure_done.mp same
      obtain ⟨taken, whole, writes⟩ := h first
      exact ⟨taken, whole, fun b same => Option.some.inj same ▸ writes⟩
  · obtain ⟨stops, between, ahead, read⟩ := bind_done.mp read
    obtain ⟨-, rfl⟩ := next_done.mp ahead
    cases stops with
    | true => exact (pure_done.mp read).2
    | false =>
      rw [if_neg Bool.false_ne_true] at read
      obtain ⟨a, between, read, same⟩ := bind_done.mp read
      cases (pure_done.mp same).1

end QuerySignature.Reader
