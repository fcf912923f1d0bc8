import QuerySignature.Proofs.Token.Alone
import QuerySignature.Proofs.Token.Spacing

/-!
# Proofs/Token/Ending — words at the end of a text

A word that the scanner finds in front of some text it also finds at the end of a text, where nothing follows
(`Scan.lexeme?_ending`): in front of a space it is the same word, and nothing can be seen over the space.  Labels of
blank nodes and variables are looked at by themselves, because only data is known to be the same in front of a space.
-/

namespace QuerySignature

namespace Lexeme

variable {s x : Text}

/-- A string that is open over a space is open without it. -/
theorem staysOpen_nil (s x : Text) : StaysOpen s x [] := by
  intro mark _ rest _ open_
  refine Option.eq_none_iff_forall_ne_some.mpr fun n closed => ?_
  rw [List.append_nil] at closed
  have inside := (longString_extent closed).2
  have further := @longString_inside [] mark rest 3 n (by rwa [List.append_nil]) inside x
  rw [open_] at further
  cases further

/-- A space in front of nothing is as good as nothing. -/
theorem spacing_nil : Spacing [' '] [] := ⟨rfl, rfl, fun _ => rfl⟩

/-- A label goes on beyond what has been passed, or stays where it was good. -/
theorem labelTail_reach (text : Text) {taken good : Nat} (h : good ≤ taken) :
    labelTail text taken good = good ∨ taken < labelTail text taken good := by
  induction text generalizing taken good with
  | nil => exact .inl rfl
  | cons c rest ih =>
    rw [labelTail]
    split
    · rcases ih (Nat.le_succ_of_le h) with same | beyond
      · exact .inl same
      · exact .inr (Nat.lt_of_succ_lt beyond)
    · split
      · exact .inr (labelTail_extent rest (Nat.le_refl _)).1
      · exact .inl rfl

/-- A label that ends at a boundary is one without the rest. -/
theorem labelTail_front {taken good : Nat} (le : good ≤ taken) (h : labelTail (s ++ x) taken good = taken + s.length) :
    labelTail s taken good = taken + s.length := by
  induction s generalizing taken good with
  | nil =>
    rcases labelTail_reach x le with same | beyond
    · exact same.symm.trans h
    · exact absurd h (Nat.ne_of_gt beyond)
  | cons c s ih =>
    rw [List.cons_append, labelTail] at h
    rw [labelTail]
    rw [List.length_cons, Nat.add_comm s.length 1, ← Nat.add_assoc] at h ⊢
    split at h
    · next point =>
      rw [if_pos point]
      exact ih (Nat.le_succ_of_le le) h
    · next plain =>
      rw [if_neg plain]
      split at h
      · next char =>
        rw [if_pos char]
        exact ih (Nat.le_refl _) h
      · omega

/-- A label has a character behind its mark. -/
theorem blankLabel_long {n : Nat} (h : blankLabel s = some n) : 3 ≤ n := by
  unfold blankLabel at h
  split at h
  · next c rest =>
    split at h
    · rw [← Option.some.inj h]
      exact (labelTail_extent rest (Nat.le_refl 3)).1
    · cases h
  · cases h

/-- **The label of a blank node** that ends at a boundary is one without the rest. -/
theorem blankLabel_front (h : blankLabel (s ++ x) = some s.length) : blankLabel s = some s.length := by
  obtain ⟨mark, far⟩ := Scan.blankLabel_mark h
  rw [@isPrefixOf_append ['_', ':'] s far] at mark
  obtain ⟨rest, rfl⟩ := List.isPrefixOf_iff_prefix.mp mark
  rcases rest with _ | ⟨c, rest⟩
  · exact absurd (blankLabel_long h) (by decide)
  · change (if Text.isWord c then some (labelTail (rest ++ x) 3 3) else none) = some (rest.length + 3) at h
    change (if Text.isWord c then some (labelTail rest 3 3) else none) = some (rest.length + 3)
    split at h
    · next word =>
      rw [if_pos word, Nat.add_comm]
      refine congrArg some (labelTail_front (x := x) (Nat.le_refl 3) ?_)
      rw [Option.some.inj h, Nat.add_comm]
    · cases h

/-- **A variable is its mark and its name**, whichever mark it has, and at the end of a text too. -/
theorem var_front (h : var (s ++ x) = some s.length) : var ('?' :: s.drop 1) = some s.length := by
  obtain ⟨c, name, rfl⟩ := List.exists_cons_of_length_pos (var_extent h).1
  rw [List.cons_append] at h
  unfold var at h
  split at h
  · next c' rest same =>
    obtain ⟨rfl, rfl⟩ := List.cons.inj same
    split at h
    · obtain ⟨n, found, length⟩ := Option.map_eq_some_iff.mp h
      obtain rfl := Nat.succ.inj length
      rw [var, if_pos (.inl rfl), List.drop_succ_cons, List.drop_zero, run?_front found (Nat.le_refl _)]
      rfl
    · cases h
  · cases h

end Lexeme

namespace Scan

open Lexeme

variable {s x : Text} {n : Nat}

/-- The label of a blank node is taken before all other words. -/
theorem lexeme?_blankLabel (h : blankLabel s = some n) (before : Option Char) :
    lexeme? before s = some (.token .prefixedName, n) := by
  obtain ⟨mark, -⟩ := blankLabel_mark h
  obtain ⟨rest, rfl⟩ := List.isPrefixOf_iff_prefix.mp mark
  have none_ : comment ('_' :: ':' :: rest) = none ∧ iri ('_' :: ':' :: rest) = none ∧
      opensIri ('_' :: ':' :: rest) = false ∧ quotedLiteral ('_' :: ':' :: rest) = none := by
    refine ⟨?_, ?_, ?_, quotedLiteral_of_ne (by decide) (by decide) _⟩
    · rw [comment_cons, if_neg (by decide)]
    · rw [iri_cons, if_neg fun both => absurd both.1 (by decide)]
    · rw [opensIri_cons, beq_false_of_ne (by decide), Bool.false_and]
  change lexeme? before ('_' :: ':' :: rest) = _
  change blankLabel ('_' :: ':' :: rest) = _ at h
  simp [lexeme?, none_, h]

/-- A variable is taken before all words and numbers. -/
theorem lexeme?_var (h : var ('?' :: s) = some n) (before : Option Char) :
    lexeme? before ('?' :: s) = some (.token .var, n) := by
  obtain ⟨none₁, none₂, none₃, none₄, none₅⟩ := early_none (c := '?') (by decide) s
  rw [lexeme?, none₁, none₂, none₃, none₄, none₅, prefixedName_of_ne (by decide) (by decide), h]
  rfl

/-- A word with the mark of a label is a label. -/
theorem blankLabel_of_mark {before : Option Char} (h : lexeme? before (s ++ x) = some (.token .prefixedName, s.length))
    (mark : ['_', ':'].isPrefixOf s = true) : blankLabel (s ++ x) = some s.length := by
  have rule : blankLabel (s ++ x) = some s.length ∨ prefixedName (s ++ x) = some s.length := by
    simpa using lexeme?_cases h
  refine rule.resolve_right fun name => ?_
  obtain ⟨rest, rfl⟩ := List.isPrefixOf_iff_prefix.mp mark
  exact absurd (prefixedName_head name) (by decide)

/-- **A word is one at the end of a text**: an IRI, a name under a namespace, the label of a blank node or a literal. -/
theorem lexeme?_ending {before before' : Option Char} {kind : Token.Kind}
    (free : before'.any joinsWord = false) (term : kind = .iri ∨ kind = .prefixedName ∨ kind = .literal)
    (h : lexeme? before (s ++ x) = some (.token kind, s.length)) :
    lexeme? before' s = some (.token kind, s.length) := by
  have stop : Stops [' '] := ⟨_, _, rfl, .inl rfl⟩
  have ending (named : kind = .prefixedName → ['_', ':'].isPrefixOf s = false) :
      lexeme? before' s = some (.token kind, s.length) := by
    have spaced := lexeme?_alone stop free term named h
    have closed : Class.token kind ≠ .openIri := nofun
    have ended := lexeme?_spacing spacing_nil (staysOpen_nil s [' ']) (fun _ => rfl) rfl closed spaced (Nat.le_refl _)
    rwa [List.append_nil] at ended
  by_cases named : kind = .prefixedName ∧ ['_', ':'].isPrefixOf s = true
  · obtain ⟨rfl, mark⟩ := named
    exact lexeme?_blankLabel (blankLabel_front (blankLabel_of_mark h mark)) _
  · refine ending fun same => ?_
    exact Bool.eq_false_iff.mpr fun mark => named ⟨same, mark⟩

end Scan

end QuerySignature
