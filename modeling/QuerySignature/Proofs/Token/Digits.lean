import QuerySignature.Proofs.Token.Extent

/-!
# Proofs/Token/Digits — a number cut out of its text

A number that ends at a boundary is the same number when nothing stands behind the boundary (`number_alone`).
For this each rule about digits has up to three lemmas: what it finds up to the boundary it finds without the
rest (`_front`), where it ends in front of the boundary the rest does not matter (`_inner`), and with the rest
it finds something too (`_grows`).
-/

namespace QuerySignature.Lexeme

variable {p : Char → Bool} {s x : Text} {n : Nat}

/-! ## Runs -/

/-- A text of such characters is one run. -/
theorem run_whole (h : s.all p = true) : run p s = s.length := by
  have whole := run_append p s []
  rwa [List.append_nil, if_pos h, run_nil, Nat.add_zero] at whole

/-- A run that ends inside the front is the run of the front. -/
theorem run_front (h : run p (s ++ x) ≤ s.length) : run p s = run p (s ++ x) := by
  rw [run_append] at h ⊢
  split
  · next all =>
    rw [if_pos all] at h
    have := run_whole all
    omega
  · rfl

/-- A run that ends before the front does is not affected by what follows. -/
theorem run_inner (h : run p s < s.length) : run p (s ++ x) = run p s := by
  rw [run_append, if_neg]
  intro all
  have := run_whole all
  omega

/-- A longer text has no shorter run. -/
theorem run_grows (p : Char → Bool) (s x : Text) : run p s ≤ run p (s ++ x) := by
  rw [run_append]
  have := run_le p s
  split <;> omega

/-- `run_front` for a run that must not be empty. -/
theorem run?_front (h : run? p (s ++ x) = some n) (inside : n ≤ s.length) : run? p s = some n := by
  rw [run?_eq_some] at h ⊢
  rwa [run_front (x := x) (by omega)]

/-- `run_inner` for a run that must not be empty. -/
theorem run?_inner (h : run? p s = some n) (inside : n < s.length) : run? p (s ++ x) = some n := by
  rw [run?_eq_some] at h ⊢
  rwa [run_inner (by omega)]

/-- A run that is not empty stays so in a longer text. -/
theorem run?_grows (h : run? p s = some n) (x : Text) : (run? p (s ++ x)).isSome := by
  rw [run?_eq_some] at h
  have := run_grows p s x
  rw [Option.isSome_iff_exists]
  exact ⟨_, run?_eq_some.mpr ⟨rfl, by omega⟩⟩

/-! ## Fractions and exponents -/

/-- A fraction is a point and digits behind it. -/
theorem fraction_cons (c : Char) (rest : Text) :
    fraction (c :: rest) = if c = '.' then (run? Text.isDecimal rest).map (· + 1) else none := by
  by_cases h : c = '.'
  · subst h
    rfl
  · rw [if_neg h]
    unfold fraction
    split
    · next whole => exact absurd (List.cons.inj whole).1 h
    · rfl

/-- A fraction that ends inside the front is a fraction of the front. -/
theorem fraction_front (h : fraction (s ++ x) = some n) (inside : n ≤ s.length) : fraction s = some n := by
  cases s with
  | nil =>
    have := fraction_extent h
    rw [List.length_nil] at inside
    omega
  | cons c s =>
    rw [List.cons_append, fraction_cons] at h
    rw [fraction_cons]
    split at h
    · next point =>
      obtain ⟨m, found, rfl⟩ := Option.map_eq_some_iff.mp h
      rw [if_pos point, run?_front found (Nat.le_of_succ_le_succ inside)]
      rfl
    · cases h

/-- A fraction that ends before the front does is not affected by what follows. -/
theorem fraction_inner (h : fraction s = some n) (inside : n < s.length) : fraction (s ++ x) = some n := by
  cases s with
  | nil => cases h
  | cons c s =>
    rw [fraction_cons] at h
    rw [List.cons_append, fraction_cons]
    split at h
    · next point =>
      obtain ⟨m, found, rfl⟩ := Option.map_eq_some_iff.mp h
      rw [if_pos point, run?_inner found (Nat.lt_of_succ_lt_succ inside)]
      rfl
    · cases h

/-- A fraction stays one in a longer text. -/
theorem fraction_grows (h : fraction s = some n) (x : Text) : (fraction (s ++ x)).isSome := by
  cases s with
  | nil => cases h
  | cons c s =>
    rw [fraction_cons] at h
    rw [List.cons_append, fraction_cons]
    split at h
    · next point =>
      obtain ⟨m, found, rfl⟩ := Option.map_eq_some_iff.mp h
      rw [if_pos point, Option.isSome_map]
      exact run?_grows found x
    · cases h

/-- An exponent that ends inside the front is an exponent of the front. -/
theorem exponent_front (h : exponent (s ++ x) = some n) (inside : n ≤ s.length) : exponent s = some n := by
  have two : 2 ≤ n := by
    unfold exponent at h
    split at h
    · split at h
      · cases h
      · split at h
        · obtain ⟨m, -, rfl⟩ := Option.map_eq_some_iff.mp h
          exact Nat.le_add_left 2 m
        · obtain ⟨m, found, rfl⟩ := Option.map_eq_some_iff.mp h
          have := run?_extent found
          omega
    · cases h
  rcases s with _ | ⟨e, _ | ⟨sign, s⟩⟩
  · rw [List.length_nil] at inside
    omega
  · rw [List.length_singleton] at inside
    omega
  · simp only [List.cons_append, exponent] at h ⊢
    rw [List.length_cons, List.length_cons] at inside
    split at h
    · cases h
    · next mark =>
      rw [if_neg mark]
      split at h
      · next signed =>
        obtain ⟨m, found, rfl⟩ := Option.map_eq_some_iff.mp h
        rw [if_pos signed, run?_front found (by omega)]
        rfl
      · next plain =>
        obtain ⟨m, found, rfl⟩ := Option.map_eq_some_iff.mp h
        rw [← List.cons_append] at found
        rw [if_neg plain, run?_front found (by rw [List.length_cons]; omega)]
        rfl

/-- An exponent stays one in a longer text. -/
theorem exponent_grows (h : exponent s = some n) (x : Text) : (exponent (s ++ x)).isSome := by
  rcases s with _ | ⟨e, _ | ⟨sign, s⟩⟩
  · cases h
  · cases h
  · simp only [List.cons_append, exponent] at h ⊢
    split at h
    · cases h
    · next mark =>
      rw [if_neg mark]
      split at h
      · next signed =>
        obtain ⟨m, found, rfl⟩ := Option.map_eq_some_iff.mp h
        rw [if_pos signed, Option.isSome_map]
        exact run?_grows found x
      · next plain =>
        obtain ⟨m, found, rfl⟩ := Option.map_eq_some_iff.mp h
        rw [if_neg plain, Option.isSome_map, ← List.cons_append]
        exact run?_grows found x

/-! ## Points -/

/-- A decimal that ends inside the front is a decimal of the front. -/
theorem decimal_front (h : decimal (s ++ x) = some n) (inside : n ≤ s.length) : decimal s = some n := by
  obtain ⟨m, found, rfl⟩ := Option.map_eq_some_iff.mp h
  have pos := (fraction_extent found).1
  have digits : run Text.isDecimal s = run Text.isDecimal (s ++ x) := run_front (by omega)
  rw [← digits] at found inside ⊢
  rw [List.drop_append_of_le_length (run_le _ s)] at found
  rw [decimal, fraction_front found (by rw [List.length_drop]; omega)]
  rfl

/-- A decimal that ends before the front does is not affected by what follows. -/
theorem decimal_inner (h : decimal s = some n) (inside : n < s.length) : decimal (s ++ x) = some n := by
  obtain ⟨m, found, rfl⟩ := Option.map_eq_some_iff.mp h
  have digits : run Text.isDecimal (s ++ x) = run Text.isDecimal s := run_inner (by omega)
  unfold decimal
  rw [digits]
  dsimp only
  rw [List.drop_append_of_le_length (run_le _ s), fraction_inner found (by rw [List.length_drop]; omega)]
  rfl

/-- A decimal stays one in a longer text. -/
theorem decimal_grows (h : decimal s = some n) (x : Text) : (decimal (s ++ x)).isSome := by
  obtain ⟨m, found, rfl⟩ := Option.map_eq_some_iff.mp h
  have extent := fraction_extent found
  rw [List.length_drop] at extent
  have digits : run Text.isDecimal (s ++ x) = run Text.isDecimal s := run_inner (by omega)
  unfold decimal
  rw [digits]
  dsimp only
  rw [List.drop_append_of_le_length (run_le _ s), Option.isSome_map]
  exact fraction_grows found x

/-- Digits and a point, where the digits in front of the point lie inside the boundary. -/
theorem pointed_append (digits : run Text.isDecimal (s ++ x) = run Text.isDecimal s)
    (inside : run Text.isDecimal s < s.length) :
    pointed (s ++ x) =
      if run Text.isDecimal s ≠ 0 ∧ (s.drop (run Text.isDecimal s)).head? = some '.' then
        some (run Text.isDecimal s + 1 + run Text.isDecimal (s.drop (run Text.isDecimal s + 1) ++ x))
      else decimal (s ++ x) := by
  have head : ((s ++ x).drop (run Text.isDecimal s)).head? = (s.drop (run Text.isDecimal s)).head? := by
    rw [List.drop_append_of_le_length (by omega), List.head?_append_of_ne_nil]
    rw [ne_eq, List.drop_eq_nil_iff]
    omega
  unfold pointed
  rw [digits]
  dsimp only
  rw [head, List.drop_append_of_le_length inside]

/-- A mantissa with a point that ends inside the front is one of the front. -/
theorem pointed_front (h : pointed (s ++ x) = some n) (inside : n ≤ s.length) : pointed s = some n := by
  have short : run Text.isDecimal (s ++ x) < n := by
    unfold pointed at h
    dsimp only at h
    split at h
    · obtain rfl := Option.some.inj h
      omega
    · obtain ⟨m, found, rfl⟩ := Option.map_eq_some_iff.mp h
      have := fraction_extent found
      omega
  have digits : run Text.isDecimal s = run Text.isDecimal (s ++ x) := run_front (by omega)
  rw [pointed_append digits.symm (by omega)] at h
  unfold pointed
  dsimp only
  split at h
  · next point =>
    obtain rfl := Option.some.inj h
    rw [if_pos point, run_front (s := s.drop _) (x := x) (by rw [List.length_drop]; omega)]
  · next none_ =>
    rw [if_neg none_]
    exact decimal_front h inside

/-- A mantissa with a point that ends before the front does is not affected by what follows. -/
theorem pointed_inner (h : pointed s = some n) (inside : n < s.length) : pointed (s ++ x) = some n := by
  have short : run Text.isDecimal s < n := by
    unfold pointed at h
    dsimp only at h
    split at h
    · obtain rfl := Option.some.inj h
      omega
    · obtain ⟨m, found, rfl⟩ := Option.map_eq_some_iff.mp h
      have := fraction_extent found
      omega
  rw [pointed_append (run_inner (by omega)) (by omega)]
  unfold pointed at h
  dsimp only at h
  split at h
  · next point =>
    obtain rfl := Option.some.inj h
    rw [if_pos point, run_inner (s := s.drop _) (by rw [List.length_drop]; omega)]
  · next none_ =>
    rw [if_neg none_]
    exact decimal_inner h inside

/-! ## Numbers -/

/-- A rule whose findings depend on nothing behind them. -/
structure Stable (rule : Text → Option Nat) : Prop where
  shorten : ∀ {s x n}, rule (s ++ x) = some n → n ≤ s.length → rule s = some n
  extend : ∀ {s x n}, rule s = some n → n < s.length → rule (s ++ x) = some n

/-- A mantissa with a point does not change with what follows. -/
theorem stable_pointed : Stable pointed := ⟨pointed_front, pointed_inner⟩

/-- A run does not change with what follows. -/
theorem stable_run? (p : Char → Bool) : Stable (run? p) := ⟨run?_front, run?_inner⟩

/-- A scaled number is a mantissa and an exponent. -/
theorem scaled_eq_some {mantissa : Text → Option Nat} :
    scaled mantissa s = some n ↔ ∃ k m, mantissa s = some k ∧ exponent (s.drop k) = some m ∧ n = k + m := by
  unfold scaled
  cases mantissa s with
  | none => simp
  | some k => cases h : exponent (s.drop k) <;> simp [h, eq_comm]

/-- A scaled number that ends inside the front is one of the front. -/
theorem scaled_front {mantissa : Text → Option Nat} (stable : Stable mantissa)
    (h : scaled mantissa (s ++ x) = some n) (inside : n ≤ s.length) : scaled mantissa s = some n := by
  obtain ⟨k, m, first, second, rfl⟩ := scaled_eq_some.mp h
  rw [List.drop_append_of_le_length (by omega)] at second
  refine scaled_eq_some.mpr ⟨k, m, stable.shorten first (by omega), exponent_front second ?_, rfl⟩
  rw [List.length_drop]
  omega

/-- A scaled number stays one in a longer text. -/
theorem scaled_grows {mantissa : Text → Option Nat} (stable : Stable mantissa) (h : scaled mantissa s = some n)
    (x : Text) : (scaled mantissa (s ++ x)).isSome := by
  obtain ⟨k, m, first, second, rfl⟩ := scaled_eq_some.mp h
  have inside : k < s.length := by
    refine Nat.lt_of_not_le fun beyond => ?_
    rw [List.drop_eq_nil_of_le beyond] at second
    cases second
  obtain ⟨m', further⟩ := Option.isSome_iff_exists.mp (exponent_grows second x)
  rw [← List.drop_append_of_le_length (Nat.le_of_lt inside)] at further
  exact Option.isSome_iff_exists.mpr ⟨_, scaled_eq_some.mpr ⟨k, m', stable.extend first inside, further, rfl⟩⟩

/-- What a longer text does not have, the front does not have. -/
theorem eq_none_of_grows {first first' : Option Nat} (grows : ∀ {n}, first = some n → first'.isSome)
    (h : first' = none) : first = none := by
  cases found : first with
  | none => rfl
  | some n =>
    have := grows found
    rw [h] at this
    cases this

/-- **A number that ends at a boundary** is the same number without the rest. -/
theorem number_alone (h : number (s ++ x) = some s.length) : number s = some s.length := by
  simp only [number, Option.or_eq_some_iff] at h ⊢
  have all := Nat.le_refl s.length
  have none₁ := eq_none_of_grows fun found => scaled_grows stable_pointed (s := s) found x
  have none₂ := eq_none_of_grows fun found => scaled_grows (stable_run? Text.isDecimal) (s := s) found x
  have none₃ := eq_none_of_grows fun found => decimal_grows (s := s) found x
  rcases h with h | ⟨first, h | ⟨second, h | ⟨third, h⟩⟩⟩
  · exact .inl (scaled_front stable_pointed h all)
  · exact .inr ⟨none₁ first, .inl (scaled_front (stable_run? _) h all)⟩
  · exact .inr ⟨none₁ first, .inr ⟨none₂ second, .inl (decimal_front h all)⟩⟩
  · exact .inr ⟨none₁ first, .inr ⟨none₂ second, .inr ⟨none₃ third, run?_front h all⟩⟩⟩

end QuerySignature.Lexeme
