import QuerySignature.Proofs.Outcome.Run
import QuerySignature.Proofs.Paired.Pieces

/-!
# Proofs/Lookahead/Rules — a look-ahead and the branches behind it

A look-ahead says whether a procedure will read what comes next.  Where it says no, the procedure declines: it stops in
front of the next token with a violation of the grammar.  Where it says yes, the procedure enters: it takes the next token,
whatever comes of it then, or that token is a bracket and no level is left.  Both together are `Heeds`.

A procedure tries its branches in order.  So one pass over them is enough: a branch that takes a token makes the look-ahead
true, and where no branch is left the look-ahead is false.
-/

namespace QuerySignature

/-! ## Violations of the grammar -/

/-- **The fault is a violation of the grammar**, under any limits and wherever the text ends: no ceiling is reached, and no
term is without a value. -/
def Fault.IsViolation (fault : Fault) : Prop :=
  ∀ limits stop, ∃ expected found position, fault.failure limits stop = .rejected (.grammar expected found position)

theorem Fault.isViolation_unexpected (expected : Expected) (found : Option Token) :
    (Fault.unexpected expected found).IsViolation := by
  intro limits stop
  cases found <;> exact ⟨_, _, _, rfl⟩

theorem Fault.not_isViolation_tooDeep (bracket : Token) : ¬(Fault.tooDeep bracket).IsViolation := by
  intro violation
  obtain ⟨_, _, _, same⟩ := violation .standard .start
  cases same

namespace Reader

variable {α β : Type} {R R' : Reader α} {N : α → Reader β} {tokens rest : List Token} {p q : Token → Bool} {b : Bool}
  {full : Prop} {brackets : List String}

/-! ## Entering and declining -/

/-- **The procedure declines the next token**: it stops in front of it with a violation of the grammar. -/
def Declines (R : Reader α) (tokens : List Token) : Prop :=
  ∃ fault, fault.IsViolation ∧ R.read tokens = .stopped fault tokens

/-- **The procedure enters on the next token**: it takes it, and may come to a value or a fault behind it; or the depth is
at its ceiling, and the procedure stops in front of a bracket that would open one more level. -/
def Enters (full : Prop) (brackets : List String) (R : Reader α) (tokens : List Token) : Prop :=
  0 < (R.taken tokens).length ∨ full ∧ ∃ bracket, tokens.head? = some bracket ∧ bracket.isSymbol brackets = true ∧
    R.read tokens = .stopped (.tooDeep bracket) tokens

/-- **The procedure does what the look-ahead says.** -/
inductive Heeds (full : Prop) (brackets : List String) (R : Reader α) (tokens : List Token) : Bool → Prop where
  | enters : Enters full brackets R tokens → Heeds full brackets R tokens true
  | declines : Declines R tokens → Heeds full brackets R tokens false

theorem taken_pos : 0 < (R.taken tokens).length ↔ (R.read tokens).rest.length < tokens.length := by
  have conserved := congrArg List.length (R.taken_append tokens)
  rw [List.length_append] at conserved
  omega

/-- **What enters does not decline.** -/
theorem Enters.not_declines (h : Enters full brackets R tokens) : ¬Declines R tokens := by
  rintro ⟨fault, violation, stopped⟩
  rcases h with taken | ⟨-, bracket, -, -, deep⟩
  · have less := taken_pos.mp taken
    rw [stopped] at less
    exact Nat.lt_irrefl _ less
  · obtain ⟨rfl, -⟩ := Reading.stopped.inj (deep.symm.trans stopped)
    exact Fault.not_isViolation_tooDeep bracket violation

/-- **The look-ahead is false exactly where the procedure declines.** -/
theorem Heeds.eq_false_iff (h : Heeds full brackets R tokens b) : b = false ↔ Declines R tokens := by
  cases h with
  | enters entered => exact iff_of_false nofun entered.not_declines
  | declines declined => exact iff_of_true rfl declined

/-- Where the look-ahead is true the procedure enters. -/
theorem Heeds.entered (h : Heeds full brackets R tokens true) : Enters full brackets R tokens := by
  cases h
  assumption

/-- Where it is false the procedure declines. -/
theorem Heeds.declined (h : Heeds full brackets R tokens false) : Declines R tokens := by
  cases h
  assumption

namespace Heeds

/-! ## One reader after the other -/

theorem of_takes (less : (R.read tokens).rest.length < tokens.length) : Heeds full brackets R tokens true :=
  .enters (.inl (taken_pos.mpr less))

/-- Readers that come to the same do the same. -/
theorem of_read (same : R.read tokens = R'.read tokens) (h : Heeds full brackets R' tokens b) :
    Heeds full brackets R tokens b := by
  cases h with
  | enters entered =>
    rcases entered with taken | ceiling
    · exact of_takes (same ▸ taken_pos.mp taken)
    · exact .enters (.inr (same ▸ ceiling))
  | declines declined =>
    obtain ⟨fault, violation, stopped⟩ := declined
    exact .declines ⟨fault, violation, same.trans stopped⟩

/-- **What the first reader does decides**: the token that it takes stays taken, and where it stops nothing follows. -/
theorem bind (h : Heeds full brackets R tokens b) : Heeds full brackets (R >>= N) tokens b := by
  have stops {fault : Fault} (stopped : R.read tokens = .stopped fault tokens) :
      (R >>= N).read tokens = .stopped fault tokens := bind_stopped.mpr (.inl stopped)
  cases h with
  | enters entered =>
    rcases entered with taken | ⟨ceiling, bracket, next, is, stopped⟩
    · refine of_takes (Nat.lt_of_le_of_lt ?_ (taken_pos.mp taken))
      rw [bind_read]
      cases R.read tokens with
      | stopped fault rest => exact Nat.le_refl _
      | done a rest =>
        have conserved := congrArg List.length ((N a).taken_append rest)
        rw [List.length_append] at conserved
        exact Nat.le.intro ((Nat.add_comm _ _).trans conserved)
    · exact .enters (.inr ⟨ceiling, bracket, next, is, stops stopped⟩)
  | declines declined =>
    obtain ⟨fault, violation, stopped⟩ := declined
    exact .declines ⟨fault, violation, stops stopped⟩

/-- **A reader that takes nothing leaves the decision to the next.** -/
theorem behind {a : α} (read : R.read tokens = .done a tokens) (h : Heeds full brackets (N a) tokens b) :
    Heeds full brackets (R >>= N) tokens b :=
  h.of_read (by rw [bind_read, read])

theorem taking (h : Heeds full brackets R tokens b) : Heeds full brackets (Reader.taking R) tokens b := by
  have stops {fault : Fault} (stopped : R.read tokens = .stopped fault tokens) :
      (Reader.taking R).read tokens = .stopped fault tokens := by simp only [Reader.taking, stopped]
  cases h with
  | enters entered =>
    rcases entered with taken | ⟨ceiling, bracket, next, is, stopped⟩
    · exact .enters (.inl taken)
    · exact .enters (.inr ⟨ceiling, bracket, next, is, stops stopped⟩)
  | declines declined =>
    obtain ⟨fault, violation, stopped⟩ := declined
    exact .declines ⟨fault, violation, stops stopped⟩

theorem within {region : Region} (h : Heeds full brackets R tokens b) :
    Heeds full brackets (Reader.within region R) tokens b := by
  have same : (Reader.within region R).read tokens = R.read tokens := rfl
  exact h.of_read same

theorem asBlock {R : Reader Values} {writes : Writes IsBlock R} (h : Heeds full brackets R tokens b) :
    Heeds full brackets (Reader.asBlock R writes) tokens b := by
  have same : (Reader.asBlock R writes).read tokens = R.read tokens := rfl
  exact h.of_read same

/-! ## Branches -/

theorem refuse {expected : Expected} (no : b = false) :
    Heeds full brackets (Reader.refuse expected : Reader α) tokens b := by
  subst no
  exact .declines ⟨_, Fault.isViolation_unexpected expected tokens.head?, rfl⟩

/-- A choice by the next token. -/
theorem ifNext {M : Bool → Reader β} (yes : tokens.head?.any p = true → Heeds full brackets (M true) tokens b)
    (no : tokens.head?.any p = false → Heeds full brackets (M false) tokens b) :
    Heeds full brackets (Reader.next p >>= M) tokens b := by
  cases ahead : tokens.head?.any p with
  | true => exact behind (next_done.mpr ⟨ahead, rfl⟩) (yes ahead)
  | false => exact behind (next_done.mpr ⟨ahead, rfl⟩) (no ahead)

/-- A token that is accepted. -/
theorem accept? (is : tokens.head?.any p = true) : Heeds full brackets (Reader.accept? p) tokens true := by
  cases tokens with
  | nil => cases is
  | cons token others =>
    refine of_takes ?_
    rw [accept?_some.mpr ⟨rfl, is⟩]
    exact Nat.lt_succ_self _

/-- **A token that is accepted, or else** the branches behind. -/
theorem orElse {N : Option Token → Reader β} (some : tokens.head?.any p = true → b = true)
    (none : tokens.head?.any p = false → Heeds full brackets (N .none) tokens b) :
    Heeds full brackets (Reader.accept? p >>= N) tokens b := by
  cases ahead : tokens.head?.any p with
  | true =>
    obtain rfl := some ahead
    exact (accept? ahead).bind
  | false => exact behind (accept?_none.mpr ⟨rfl, ahead⟩) (none ahead)

/-- A symbol that may stand, or not. -/
theorem orOptional {symbols : List String} {N : List Token → Reader β}
    (some : tokens.head?.any (·.isSymbol symbols) = true → b = true)
    (none : tokens.head?.any (·.isSymbol symbols) = false → Heeds full brackets (N []) tokens b) :
    Heeds full brackets (optionalSymbol symbols >>= N) tokens b := by
  cases ahead : tokens.head?.any (·.isSymbol symbols) with
  | true =>
    obtain rfl := some ahead
    exact (accept? ahead).bind.bind
  | false => exact behind (bind_done.mpr ⟨_, tokens, accept?_none.mpr ⟨rfl, ahead⟩, rfl⟩) (none ahead)

theorem ifAccept {M : Bool → Reader β} (yes : tokens.head?.any p = true → b = true)
    (no : tokens.head?.any p = false → Heeds full brackets (M false) tokens b) :
    Heeds full brackets (Reader.accept p >>= M) tokens b := by
  cases ahead : tokens.head?.any p with
  | true =>
    obtain rfl := yes ahead
    exact (accept? ahead).bind.bind
  | false => exact behind (accept_false.mpr ⟨rfl, ahead⟩) (no ahead)

theorem require {expected : Expected} (is : tokens.head?.any p = b) :
    Heeds full brackets (Reader.require expected p) tokens b :=
  orElse is.symm.trans fun missed => refuse (is.symm.trans missed)

/-- Two tokens that are accepted. -/
theorem acceptTwo? (two : (tokens.head?.any p && tokens.tail.head?.any q) = true) :
    Heeds full brackets (Reader.acceptTwo? p q) tokens true := by
  obtain ⟨first, second, others, rfl, both⟩ := exists_two two
  refine of_takes ?_
  rw [(acceptTwo?_found both).1]
  exact Nat.lt_succ_of_lt (Nat.lt_succ_self _)

/-- **Two tokens that are accepted, or else** the branches behind. -/
theorem orTwo {N : Option (Token × Token) → Reader β}
    (some : (tokens.head?.any p && tokens.tail.head?.any q) = true → b = true)
    (none : (tokens.head?.any p && tokens.tail.head?.any q) = false → Heeds full brackets (N .none) tokens b) :
    Heeds full brackets (Reader.acceptTwo? p q >>= N) tokens b := by
  cases two : tokens.head?.any p && tokens.tail.head?.any q with
  | true =>
    obtain rfl := some two
    exact (acceptTwo? two).bind
  | false => exact behind (acceptTwo?_missed (Bool.eq_false_iff.mp two)).1 (none two)

/-- **A bracket that is opened, or else** the branches behind.  At the ceiling the procedure stops in front of it. -/
theorem orOpen {depth : Option Inside} {opening : List String} {N : Option (Token × Inside) → Reader β}
    (ceiling : depth = none → full) (among : opening ⊆ brackets)
    (some : tokens.head?.any (·.isSymbol opening) = true → b = true)
    (none : tokens.head?.any (·.isSymbol opening) = false → Heeds full brackets (N .none) tokens b) :
    Heeds full brackets (Reader.open? depth opening >>= N) tokens b := by
  rcases open?_cases depth opening tokens with ⟨missed, -⟩ | ⟨bracket, rest, rfl, is, opened⟩
  · rcases open?_done missed with ⟨-, -, ahead⟩ | ⟨_, _, found, -⟩
    · exact behind missed (none ahead)
    · cases found
  · obtain rfl := some is
    refine bind ?_
    cases depth with
    | none => exact .enters (.inr ⟨ceiling rfl, bracket, rfl, Token.isSymbol_mono is among, opened.1⟩)
    | some inner =>
      refine of_takes ?_
      rw [opened.1]
      exact Nat.lt_succ_self _

end Heeds

end Reader

end QuerySignature
