import QuerySignature.Proofs.Outcome.Run

/-!
# Proofs/Outcome/Ceilings — limits only cut off

Under greater limits a text has the outcome that it has under smaller ones, unless the smaller ones cut its
reading off (`parse_limits`).  For the tokens this is read off the scanner; for the run it is the rule that the
second of two runs may open brackets where the first may not.
-/

namespace QuerySignature

/-- **Each ceiling of the limits is at most that of the others.** -/
structure Limits.Below (limits limits' : Limits) : Prop where
  maxDepth : limits.maxDepth ≤ limits'.maxDepth
  maxInputLength : limits.maxInputLength ≤ limits'.maxInputLength
  maxTokens : limits.maxTokens ≤ limits'.maxTokens

/-- The limits with the greater of each two ceilings. -/
def Limits.join (limits limits' : Limits) : Limits where
  maxDepth := max limits.maxDepth limits'.maxDepth
  maxInputLength := max limits.maxInputLength limits'.maxInputLength
  maxTokens := max limits.maxTokens limits'.maxTokens
  maxDepth_pos := Nat.lt_of_lt_of_le limits.maxDepth_pos (Nat.le_max_left _ _)
  maxInputLength_pos := Nat.lt_of_lt_of_le limits.maxInputLength_pos (Nat.le_max_left _ _)
  maxTokens_pos := Nat.lt_of_lt_of_le limits.maxTokens_pos (Nat.le_max_left _ _)
  maxDepth_le := Nat.max_le.mpr ⟨limits.maxDepth_le, limits'.maxDepth_le⟩

theorem Limits.below_join_left (limits limits' : Limits) : limits.Below (limits.join limits') :=
  ⟨Nat.le_max_left _ _, Nat.le_max_left _ _, Nat.le_max_left _ _⟩

theorem Limits.below_join_right (limits limits' : Limits) : limits'.Below (limits.join limits') :=
  ⟨Nat.le_max_right _ _, Nat.le_max_right _ _, Nat.le_max_right _ _⟩

/-- **A ceiling has cut the reading off.** -/
def CutOff (outcome : Except Failure Query) : Prop :=
  ∃ reached value maximum position, outcome = .error (.rejected (.ceiling reached value maximum position))

theorem not_cutOff {query : Query} : ¬CutOff (.ok query) := by
  rintro ⟨_, _, _, _, cut⟩
  cases cut

variable {limits limits' : Limits} {text : Text} {tokens : List Token}

/-! ## Tokens -/

/-- A piece that is no token is reported under greater limits too. -/
theorem tokensFrom_lexical {fault : LexicalFault} {place : Position} (fuel : Nat) :
    ∀ {cursor : Scan.Cursor} {room room' : Nat} {found : List Token}, room ≤ room' →
      Scan.tokensFrom limits fuel cursor room found = .error (.lexical fault place) →
        Scan.tokensFrom limits' fuel cursor room' found = .error (.lexical fault place) := by
  induction fuel with
  | zero => exact fun _ h => nomatch h
  | succ fuel ih =>
    intro cursor room room' found le h
    rw [Scan.tokensFrom] at h ⊢
    cases rest : cursor.rest with
    | nil => rw [rest] at h; cases h
    | cons c others =>
      rw [rest] at h
      dsimp only at h ⊢
      by_cases blank : Text.isBlank c = true
      · rw [if_pos blank] at h ⊢
        exact ih le h
      · rw [if_neg blank] at h ⊢
        split at h
        · exact h
        · exact ih le h
        · exact h
        · split at h
          · cases h
          · obtain ⟨room', rfl⟩ := Nat.exists_eq_succ_of_ne_zero (Nat.ne_of_gt (Nat.lt_of_lt_of_le (Nat.succ_pos _) le))
            exact ih (Nat.le_of_succ_le_succ le) h

/-- **The scanner has one outcome under greater limits**, unless a ceiling cuts it off. -/
theorem tokenize_of_below (below : limits.Below limits')
    (free : ∀ reached value maximum position,
      tokenize limits text ≠ .error (.ceiling reached value maximum position)) :
    tokenize limits' text = tokenize limits text := by
  cases h : tokenize limits text with
  | ok tokens =>
    obtain ⟨short, pieces, cut, whole, few, ends⟩ := tokenize_eq_ok.mp h
    exact tokenize_eq_ok.mpr
      ⟨short.trans below.maxInputLength, pieces, cut, whole, few.trans below.maxTokens, ends⟩
  | error error =>
    obtain ⟨fault, place, rfl⟩ | rfl | ⟨place, rfl⟩ := tokenize_error h
    · have short : ¬limits.maxInputLength < text.length := by
        intro long
        rw [tokenize, if_pos long] at h
        cases h
      rw [tokenize, if_neg short] at h
      rw [tokenize, if_neg fun long => short (Nat.lt_of_le_of_lt below.maxInputLength long)]
      exact tokensFrom_lexical _ below.maxTokens h
    · exact absurd h (free _ _ _ _)
    · exact absurd h (free _ _ _ _)

/-! ## Runs -/

/-- **Every token is taken for itself**, and nothing is said of a run that goes too deep. -/
def Likeness.forgiving : Likeness :=
  { Likeness.same with lenient := True }

theorem Likeness.forgiving_exact : Likeness.forgiving.Exact :=
  ⟨Eq.symm, fun stands => ⟨stands.1.symm, stands.2.1.symm⟩⟩

theorem respells_forgiving {steps : List Step} {out : List Token} (h : Respells .same steps out) :
    Respells .forgiving steps out := by
  induction h with
  | nil => exact .nil
  | token like _ ih => exact .token like ih
  | block stands _ ih => exact .block stands ih

theorem ahead_same (rest : List Token) : Ahead .forgiving rest rest := by
  rcases rest with _ | ⟨first, _ | ⟨second, others⟩⟩
  · exact .nil
  · exact ⟨rfl, .inr (.ahead .none)⟩
  · exact ⟨rfl, .inr (.ahead (.some rfl))⟩

/-- **A run that may go deeper comes to the same**, unless the first stops at the ceiling of the depth. -/
theorem Reader.Tracks.read_deeper {α : Type} {blocks : α → List Values} {V : α → α → Prop} {R R' : Reader α}
    (h : Tracks .forgiving [] blocks V R R') (exact_ : ∀ {a a'}, V a a' → a' = a)
    (free : ∀ bracket rest, R.read tokens ≠ .stopped (.tooDeep bracket) rest) : R'.read tokens = R.read tokens := by
  have tracked := @h tokens (R.taken tokens) (R.read tokens).rest
    (fun fault rest stopped bracket deep => absurd (deep ▸ stopped) (free bracket rest))
    (respells_forgiving (respells_same (R.sound tokens))) (ahead_same _)
  rw [R.taken_append] at tracked
  generalize R.read tokens = first, R'.read tokens = second at tracked
  cases tracked with
  | done _ like => rw [exact_ like]; rfl
  | stopped like => rw [Likeness.forgiving_exact.fault like]; rfl

/-- A run that comes to a value comes to the same where it may go deeper. -/
theorem Reader.Tracks.done_deeper {α : Type} {blocks : α → List Values} {V : α → α → Prop} {R R' : Reader α} {a : α}
    {rest : List Token} (h : Tracks .forgiving [] blocks V R R') (exact_ : ∀ {a a'}, V a a' → a' = a)
    (read : R.read tokens = .done a rest) : R'.read tokens = .done a rest := by
  refine (h.read_deeper exact_ fun bracket behind stopped => ?_).trans read
  cases read.symm.trans stopped

/-- **The run is the same under greater limits**, unless it stops at the ceiling of the depth. -/
theorem read_of_below (below : limits.maxDepth ≤ limits'.maxDepth)
    (free : ∀ bracket rest, limits.reader.read tokens ≠ .stopped (.tooDeep bracket) rest) :
    limits'.reader.read tokens = limits.reader.read tokens :=
  (Limits.reader_tracks (.inr ⟨trivial, below⟩)).read_deeper Likeness.forgiving_exact.query free

/-- A fault that is not the ceiling of the depth is reported without the limits. -/
theorem failure_of_below {fault : Fault} (free : ∀ bracket, fault ≠ .tooDeep bracket) (stop : Position) :
    fault.failure limits' stop = fault.failure limits stop := by
  cases fault with
  | unexpected expected found => cases found <;> rfl
  | tooDeep bracket => exact absurd rfl (free bracket)
  | rowLength => rfl
  | unreadable => rfl

theorem ofTokens_of_below {stop : Position} (below : limits.maxDepth ≤ limits'.maxDepth)
    (free : ¬CutOff (Query.ofTokens limits tokens stop)) :
    Query.ofTokens limits' tokens stop = Query.ofTokens limits tokens stop := by
  have shallow (bracket : Token) (rest : List Token) :
      limits.reader.read tokens ≠ .stopped (.tooDeep bracket) rest :=
    fun deep => free ⟨_, _, _, _, ofTokens_eq_error.mpr ⟨_, _, deep, rfl⟩⟩
  have same := read_of_below below shallow
  cases read : limits.reader.read tokens with
  | done query rest =>
    obtain ⟨rfl, -⟩ := query_done read
    rw [ofTokens_eq_ok.mpr read, ofTokens_eq_ok.mpr (same.trans read)]
  | stopped fault rest =>
    rw [ofTokens_eq_error.mpr ⟨fault, rest, read, rfl⟩,
      ofTokens_eq_error.mpr ⟨fault, rest, same.trans read, rfl⟩,
      failure_of_below fun bracket deep => shallow bracket rest (deep ▸ read)]

/-! ## Texts -/

/-- Greater limits do not change an outcome that no ceiling has cut off. -/
theorem parse_of_below (below : limits.Below limits') (free : ¬CutOff (parse limits text)) :
    parse limits' text = parse limits text := by
  have same : tokenize limits' text = tokenize limits text :=
    tokenize_of_below below fun reached value maximum position cut =>
      free ⟨reached, value, maximum, position, parse_of_error cut⟩
  cases h : tokenize limits text with
  | error error => rw [parse_of_error h, parse_of_error (same.trans h)]
  | ok tokens =>
    rw [parse_of_tokenize h] at free
    rw [parse_of_tokenize h, parse_of_tokenize (same.trans h), ofTokens_of_below below.maxDepth free]

/-- **Limits only cut off**: greater limits change no outcome that is not a ceiling, so a text is read as one
query under all limits under which it is read. -/
theorem parse_limits (text : Text) :
    (∀ {limits limits' : Limits}, limits.Below limits' → ¬CutOff (parse limits text) →
      parse limits' text = parse limits text) ∧
    ∀ {limits limits' : Limits} {query query' : Query}, parse limits text = .ok query →
      parse limits' text = .ok query' → query' = query := by
  refine ⟨parse_of_below, fun {limits limits' query query'} read read' => ?_⟩
  have first := parse_of_below (limits.below_join_left limits') (read ▸ not_cutOff)
  have second := parse_of_below (limits.below_join_right limits') (read' ▸ not_cutOff)
  exact Except.ok.inj (read'.symm.trans (second.symm.trans (first.trans read)))

/-- A test that fits one level is the same query under the standard limits. -/
theorem parse_limits_ask :
    let narrow : Limits := { maxDepth := 1, maxInputLength := 10, maxTokens := 3 }
    let test : Query := ⟨[], .ask (.pattern []) .empty none⟩
    parse narrow "ASK \x7b \x7d".toList = .ok test ∧ parse .standard "ASK \x7b \x7d".toList = .ok test := by
  intro narrow test
  have read : parse narrow "ASK \x7b \x7d".toList = .ok test := rfl
  have below : narrow.Below .standard := ⟨by decide, by decide, by decide⟩
  exact ⟨read, ((parse_limits _).1 below (read ▸ not_cutOff)).trans read⟩

end QuerySignature
