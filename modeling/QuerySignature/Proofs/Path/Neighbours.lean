import Mathlib.Data.List.Chain
import QuerySignature.Proofs.Path.Grammar

/-!
# Proofs/Path/Neighbours — which tokens of a path stand next to each other

An element of a path starts with a step, an inversion, a bracket or a negation, and ends with a step, a bracket or a
repetition; between two of them stands a separator.  So of two tokens that stand next to each other in a path either
the first ends an element and the second goes on behind it, or the first leads to an element and the second starts one
(`Token.Adjoins`, `joined_alternatives`).
-/

namespace QuerySignature

namespace Token

/-- An element can start with the token. -/
def opensElement (token : Token) : Bool :=
  Reader.isStep token || token.isSymbol ["^", "(", "!"]

/-- An element can end with the token. -/
def closesElement (token : Token) : Bool :=
  Reader.isStep token || token.isSymbol [")", "*", "+", "?"]

/-- The token goes on behind an element. -/
def followsElement (token : Token) : Bool :=
  token.isSymbol ["*", "+", "?", "/", "|", ")"]

theorem opensElement_of_isSymbol {token : Token} {symbols : List String} (h : token.isSymbol symbols = true)
    (sub : symbols ⊆ ["^", "(", "!"]) : token.opensElement = true :=
  (Bool.or_eq_true _ _).mpr (.inr (isSymbol_mono h sub))

theorem closesElement_of_isSymbol {token : Token} {symbols : List String} (h : token.isSymbol symbols = true)
    (sub : symbols ⊆ [")", "*", "+", "?"]) : token.closesElement = true :=
  (Bool.or_eq_true _ _).mpr (.inr (isSymbol_mono h sub))

/-- **Two tokens that can stand next to each other.** -/
inductive Adjoins (t u : Token) : Prop where
  | behind : t.closesElement = true → u.followsElement = true → Adjoins t u
  | before : t.isSymbol ["(", "!", "|", "/"] = true → u.opensElement = true → Adjoins t u
  | inverted : t.isSymbol ["^"] = true → u.opensElement = true → u.isSymbol ["^"] = false → Adjoins t u
  | empty : t.isSymbol ["("] = true → u.isSymbol [")"] = true → Adjoins t u

/-- **Tokens that may form elements**: neighbours adjoin, the first starts one and the last ends one. -/
structure Joined (tokens : List Token) : Prop where
  chain : tokens.IsChain Adjoins
  ne_nil : tokens ≠ []
  first : ∀ token ∈ tokens.head?, token.opensElement = true
  last : ∀ token ∈ tokens.getLast?, token.closesElement = true

end Token

open Token (Adjoins Joined)

namespace Token.Joined

variable {tokens front behind : List Token} {t u : Token}

theorem step (h : Reader.isStep t = true) : Joined [t] where
  chain := .singleton t
  ne_nil := List.cons_ne_nil _ _
  first := by rintro _ ⟨⟩; exact (Bool.or_eq_true _ _).mpr (.inl h)
  last := by rintro _ ⟨⟩; exact (Bool.or_eq_true _ _).mpr (.inl h)

/-- A token in front that leads to the first one. -/
theorem cons (h : Joined tokens) (opens : t.opensElement = true) (adjoins : ∀ u ∈ tokens.head?, Adjoins t u) :
    Joined (t :: tokens) where
  chain := List.isChain_cons.mpr ⟨adjoins, h.chain⟩
  ne_nil := List.cons_ne_nil _ _
  first := by rintro _ ⟨⟩; exact opens
  last := by
    rw [List.getLast?_cons_of_ne_nil h.ne_nil]
    exact h.last

/-- A token behind that goes on with the last one, and ends an element. -/
theorem concat (h : Joined tokens) (follows : t.followsElement = true) (closes : t.closesElement = true) :
    Joined (tokens ++ [t]) where
  chain := List.isChain_append.mpr ⟨h.chain, .singleton t, by
    rintro last member _ ⟨⟩
    exact .behind (h.last last member) follows⟩
  ne_nil := List.append_ne_nil_of_left_ne_nil h.ne_nil _
  first := by
    rw [List.head?_append_of_ne_nil _ h.ne_nil]
    exact h.first
  last := by
    rw [List.getLast?_concat]
    rintro _ ⟨⟩
    exact closes

/-- **A separator between elements.** -/
theorem separate (h : Joined front) (separates : t.isSymbol ["|", "/"] = true) (h' : Joined behind) :
    Joined (front ++ t :: behind) where
  chain := by
    refine List.isChain_append.mpr ⟨h.chain, List.isChain_cons.mpr ⟨fun u ahead => ?_, h'.chain⟩, ?_⟩
    · exact .before (isSymbol_mono separates (by simp)) (h'.first u ahead)
    · rintro last member _ ⟨⟩
      exact .behind (h.last last member) (isSymbol_mono separates (by simp))
  ne_nil := List.append_ne_nil_of_left_ne_nil h.ne_nil _
  first := by
    rw [List.head?_append_of_ne_nil _ h.ne_nil]
    exact h.first
  last := by
    rw [List.getLast?_append_of_ne_nil _ (List.cons_ne_nil _ _), List.getLast?_cons_of_ne_nil h'.ne_nil]
    exact h'.last

/-- Elements in brackets. -/
theorem enclose (opens : t.isSymbol ["("] = true) (h : Joined tokens) (closes : u.isSymbol [")"] = true) :
    Joined (t :: tokens ++ [u]) := by
  have leads : t.isSymbol ["(", "!", "|", "/"] = true := isSymbol_mono opens (by simp)
  refine (h.cons ?_ fun _ ahead => .before leads (h.first _ ahead)).concat (isSymbol_mono closes (by simp)) ?_
  · exact opensElement_of_isSymbol opens (by simp)
  · exact closesElement_of_isSymbol closes (by simp)

end Token.Joined

/-! ## Phrases of a path -/

section Phrases

variable {tokens inverse repetition : List Token}

theorem Separated.joined {phrase : List Token → Prop} (each : ∀ {tokens}, phrase tokens → Joined tokens)
    (h : Separated "|" phrase tokens) : Joined tokens := by
  induction h with
  | one first => exact each first
  | more first isMark _ ih => exact (each first).separate (Token.isSymbol_mono isMark (by simp)) ih

theorem IsOptional.inverts (h : IsOptional ["^"] inverse) (joined : Joined tokens)
    (apart : ∀ u ∈ tokens.head?, u.isSymbol ["^"] = false) : Joined (inverse ++ tokens) := by
  cases h with
  | none => exact joined
  | some is =>
    exact joined.cons (Token.opensElement_of_isSymbol is (by simp))
      fun u ahead => .inverted is (joined.first u ahead) (apart u ahead)

theorem IsInverseStep.joined (h : IsInverseStep tokens) : Joined tokens := by
  cases h with
  | step inverts step =>
    refine inverts.inverts (.step step) ?_
    rintro _ ⟨⟩
    exact Reader.isStep_isSymbol step _

theorem IsNegatedSet.joined (h : IsNegatedSet tokens) : Joined tokens := by
  cases h with
  | one inverse => exact inverse.joined
  | several opens steps closes => exact .enclose opens (steps.joined IsInverseStep.joined) closes
  | none opens closes =>
    refine ⟨.cons_cons (.empty opens closes) (.singleton _), List.cons_ne_nil _ _, ?_, ?_⟩
    · rintro _ ⟨⟩
      exact Token.opensElement_of_isSymbol opens (by simp)
    · rintro _ ⟨⟩
      exact Token.closesElement_of_isSymbol closes (by simp)

theorem IsOptional.repeats (h : IsOptional repetitions repetition) (joined : Joined tokens) :
    Joined (tokens ++ repetition) := by
  cases h with
  | none =>
    rw [List.append_nil]
    exact joined
  | some is =>
    exact joined.concat (Token.isSymbol_mono is (by simp [repetitions]))
      (Token.closesElement_of_isSymbol is (by simp [repetitions]))

end Phrases

mutual

theorem IsPathPrimary.joined {tokens : List Token} : IsPathPrimary tokens → Joined tokens
  | .step step => .step step
  | .group opens path closes => .enclose opens (joined_alternatives path) closes
  | .negated negates excluded =>
    excluded.joined.cons (Token.opensElement_of_isSymbol negates (by simp))
      fun u ahead => .before (Token.isSymbol_mono negates (by simp)) (excluded.joined.first u ahead)
termination_by structural h => h

theorem IsPathElement.joined {tokens : List Token} : IsPathElement tokens → Joined tokens
  | .element inverts middle repeats => by
    refine repeats.repeats (inverts.inverts (IsPathPrimary.joined middle) ?_)
    obtain ⟨first, others, rfl, apart⟩ := middle.exists_cons
    rintro _ ⟨⟩
    exact apart
termination_by structural h => h

theorem joined_sequence {tokens : List Token} : Separated "/" IsPathElement tokens → Joined tokens
  | .one element => IsPathElement.joined element
  | .more element is others =>
    (IsPathElement.joined element).separate (Token.isSymbol_mono is (by simp)) (joined_sequence others)
termination_by structural h => h

theorem joined_alternatives {tokens : List Token} : Separated "|" (Separated "/" IsPathElement) tokens → Joined tokens
  | .one sequence => joined_sequence sequence
  | .more sequence is others =>
    (joined_sequence sequence).separate (Token.isSymbol_mono is (by simp)) (joined_alternatives others)
termination_by structural h => h

end

end QuerySignature
