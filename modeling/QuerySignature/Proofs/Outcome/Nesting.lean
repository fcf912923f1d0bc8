import QuerySignature.Proofs.Outcome.Run

/-!
# Proofs/Outcome/Nesting — the ceiling of the depth

At no moment of a reading are more brackets open than the limits admit.  So no query that is read nests deeper
than that, and a report that the ceiling is reached is about the bracket that would open one level more
(`parse_nesting`).
-/

namespace QuerySignature

/-- **How the depth changes** while a text is read; it does not where the text has no tokens. -/
def parseShifts (limits : Limits) (text : Text) : List Shift :=
  match tokenize limits text with
  | .ok tokens => limits.reader.shifts (Token.beforeEnd tokens).1
  | .error _ => []

/-- **A report that the ceiling of the depth is reached**: as many brackets are open as may be, and the bracket
at hand would open one more. -/
structure DepthReport (limits : Limits) (text : Text) (value maximum : Nat) (position : Option Position) :
    Prop where
  value : value = limits.maxDepth + 1
  maximum : maximum = limits.maxDepth
  depth : Shift.gain (parseShifts limits text) = limits.maxDepth
  bracket : ∃ (tokens rest : List Token) (bracket : Token), tokenize limits text = .ok tokens ∧
    (Token.beforeEnd tokens).1 = limits.reader.taken (Token.beforeEnd tokens).1 ++ rest ∧
    bracket.AtHand (limits.reader.taken (Token.beforeEnd tokens).1) rest ∧ bracket.opensLevel = true ∧
    position = some bracket.position

/-- **The reading of a text keeps to the ceiling of the depth.** -/
structure Nesting (limits : Limits) (text : Text) : Prop where
  /-- On the way the depth is between the ground and its ceiling. -/
  stays : ∀ front, front <+: parseShifts limits text →
    0 ≤ Shift.gain front ∧ Shift.gain front ≤ limits.maxDepth
  /-- A query is read back on the ground and is no higher than the ceiling. -/
  query : ∀ query, parse limits text = .ok query →
    Shift.gain (parseShifts limits text) = 0 ∧ query.height ≤ limits.maxDepth
  /-- A report is about the bracket at hand. -/
  report : ∀ value maximum position,
    parse limits text = .error (.rejected (.ceiling .nestingDepth value maximum position)) →
      DepthReport limits text value maximum position

variable {limits : Limits} {text : Text} {tokens : List Token}

theorem parseShifts_of_tokenize (h : tokenize limits text = .ok tokens) :
    parseShifts limits text = limits.reader.shifts (Token.beforeEnd tokens).1 := by
  unfold parseShifts
  rw [h]

/-- The run behind a text with tokens, of which nothing is known. -/
theorem parse_run (h : tokenize limits text = .ok tokens) :
    Shift.Stays limits.maxDepth 0 (parseShifts limits text) ∧
      (limits.reader.read (Token.beforeEnd tokens).1).Ends (fun _ => True) limits.maxDepth 0
        (fun query => Fits limits.maxDepth 0 query.height) (Shift.gain (parseShifts limits text))
        (limits.reader.taken (Token.beforeEnd tokens).1) := by
  have run := @Limits.reader_orderly (Token.beforeEnd tokens).1 limits (fun _ => True) fun _ _ => trivial
  rw [parseShifts_of_tokenize h]
  refine ⟨run.stays, ?_⟩
  have ends := run.ends
  rwa [Int.natCast_zero, Int.zero_add] at ends

/-- **The ceiling of the depth is kept**, whatever the text and the limits. -/
theorem parse_nesting (limits : Limits) (text : Text) : Nesting limits text := by
  constructor
  · intro front start
    cases h : tokenize limits text with
    | error error =>
      unfold parseShifts at start
      rw [h] at start
      rw [List.prefix_nil.mp start]
      exact ⟨Int.le_refl 0, Int.natCast_nonneg _⟩
    | ok tokens =>
      have bounds := (parse_run h).1 front start
      rwa [Int.zero_add] at bounds
  · intro query read
    obtain ⟨tokens, h⟩ : ∃ tokens, tokenize limits text = .ok tokens := by
      cases h : tokenize limits text with
      | error error => rw [parse_of_error h] at read; cases read
      | ok tokens => exact ⟨tokens, rfl⟩
    rw [parse_of_tokenize h, ofTokens_eq_ok] at read
    have ends := (parse_run h).2
    rw [read] at ends
    cases ends with
    | done level fits => exact ⟨level, by rwa [Fits, Nat.zero_add] at fits⟩
  · intro value maximum position report
    obtain ⟨error, h, same⟩ | ⟨tokens, fault, rest, h, stopped, same⟩ := parse_eq_error report
    · obtain ⟨_, _, rfl⟩ | rfl | ⟨_, rfl⟩ := tokenize_error h <;> cases same
    · have ends := (parse_run h).2
      have whole := limits.reader.taken_append (Token.beforeEnd tokens).1
      rw [stopped] at ends whole
      cases ends with
      | stopped due =>
        cases due with
        | unexpected expected => cases rest <;> cases same
        | rowLength => cases same
        | unreadable => cases same
        | numeral => cases same
        | @tooDeep bracket full opens hand =>
          cases same
          exact ⟨rfl, rfl, full, tokens, rest, bracket, h, whole.symm, hand, opens, rfl⟩

end QuerySignature
