import QuerySignature.Proofs.Orderly.Brackets
import QuerySignature.Proofs.Paired.Brackets
import QuerySignature.Proofs.Reading.Terms
import QuerySignature.Proofs.Reading.Values

/-!
# Proofs/Path/Grammar — what a property path is

    path      ::=  sequence ('|' sequence)*
    sequence  ::=  element ('/' element)*
    element   ::=  '^'? primary ('*' | '+' | '?')?
    primary   ::=  step  |  '(' path ')'  |  '!' negated
    negated   ::=  inverse  |  '(' (inverse ('|' inverse)*)? ')'
    inverse   ::=  '^'? step

The rules as predicates on tokens, without a reader.  A path can go on behind a repetition by a separator only, and
behind anything else by a repetition too: where it cannot go on it `Ends`, and those are the places at which no
longer path begins like it (`ends_iff`, beside the reader).
-/

namespace QuerySignature

/-! ## Rules -/

/-- One of the symbols, or none. -/
inductive IsOptional (symbols : List String) : List Token → Prop where
  | none : IsOptional symbols []
  | some {token : Token} : token.isSymbol symbols = true → IsOptional symbols [token]

/-- **Phrases with a symbol between them.** -/
inductive Separated (mark : String) (phrase : List Token → Prop) : List Token → Prop where
  | one {tokens : List Token} : phrase tokens → Separated mark phrase tokens
  | more {first others : List Token} {token : Token} : phrase first → token.isSymbol [mark] = true →
      Separated mark phrase others → Separated mark phrase (first ++ token :: others)

/-- A step that may be inverted. -/
inductive IsInverseStep : List Token → Prop where
  | step {inverse : List Token} {token : Token} : IsOptional ["^"] inverse → Reader.isStep token = true →
      IsInverseStep (inverse ++ [token])

/-- **What a negation excludes**: one step, none in brackets, or several in brackets. -/
inductive IsNegatedSet : List Token → Prop where
  | one {tokens : List Token} : IsInverseStep tokens → IsNegatedSet tokens
  | none {opening closing : Token} : opening.isSymbol ["("] = true → closing.isSymbol [")"] = true →
      IsNegatedSet [opening, closing]
  | several {opening closing : Token} {steps : List Token} : opening.isSymbol ["("] = true →
      Separated "|" IsInverseStep steps → closing.isSymbol [")"] = true →
      IsNegatedSet (opening :: steps ++ [closing])

/-- The symbols that repeat an element. -/
def repetitions : List String := ["*", "+", "?"]

mutual

/-- **The middle of an element.** -/
inductive IsPathPrimary : List Token → Prop where
  | step {token : Token} : Reader.isStep token = true → IsPathPrimary [token]
  | group {opening closing : Token} {path : List Token} : opening.isSymbol ["("] = true →
      Separated "|" (Separated "/" IsPathElement) path → closing.isSymbol [")"] = true →
      IsPathPrimary (opening :: path ++ [closing])
  | negated {negation : Token} {set : List Token} : negation.isSymbol ["!"] = true → IsNegatedSet set →
      IsPathPrimary (negation :: set)

/-- **An element of a path**, inverted in front or repeated behind. -/
inductive IsPathElement : List Token → Prop where
  | element {inverse primary repetition : List Token} : IsOptional ["^"] inverse → IsPathPrimary primary →
      IsOptional repetitions repetition → IsPathElement (inverse ++ primary ++ repetition)

end

/-- Elements one behind the other. -/
abbrev IsPathSequence : List Token → Prop :=
  Separated "/" IsPathElement

/-- **A property path**: alternatives of sequences of elements. -/
abbrev IsPath : List Token → Prop :=
  Separated "|" IsPathSequence

/-! ## Separators -/

namespace Separated

variable {mark : String} {phrase : List Token → Prop} {taken others : List Token} {token : Token}

theorem ne_nil (nonempty : ∀ {tokens}, phrase tokens → tokens ≠ []) (h : Separated mark phrase taken) :
    taken ≠ [] := by
  cases h with
  | one first => exact nonempty first
  | more => exact List.append_ne_nil_of_right_ne_nil _ (List.cons_ne_nil _ _)

/-- Phrases start like the first one. -/
theorem exists_cons {P : Token → Prop}
    (starts : ∀ {tokens}, phrase tokens → ∃ first others, tokens = first :: others ∧ P first)
    (h : Separated mark phrase taken) : ∃ first others, taken = first :: others ∧ P first := by
  cases h with
  | one phrase => exact starts phrase
  | more phrase _ _ =>
    obtain ⟨first, others, rfl, holds⟩ := starts phrase
    exact ⟨first, _, rfl, holds⟩

/-- More phrases behind the last one. -/
theorem append (h : Separated mark phrase taken) (is : token.isSymbol [mark] = true)
    (further : Separated mark phrase others) : Separated mark phrase (taken ++ token :: others) := by
  induction h with
  | one first => exact .more first is further
  | more first is' _ ih =>
    rw [List.append_assoc, List.cons_append]
    exact .more first is' ih

/-- **The last phrase can be exchanged.** -/
theorem exists_last (h : Separated mark phrase taken) :
    ∃ front last, taken = front ++ last ∧ phrase last ∧ ∀ {last'}, phrase last' → Separated mark phrase (front ++ last') := by
  induction h with
  | @one tokens first => exact ⟨[], tokens, rfl, first, fun other => .one other⟩
  | @more first _ token firstPhrase is _ ih =>
    obtain ⟨front, last, rfl, lastPhrase, exchange⟩ := ih
    refine ⟨first ++ token :: front, last, ?_, lastPhrase, fun {last'} other => ?_⟩
    · rw [List.append_assoc, List.cons_append]
    · rw [List.append_assoc, List.cons_append]
      exact .more firstPhrase is (exchange other)

end Separated

/-! ## First and last tokens -/

/-- The last token repeats what is in front of it. -/
def Repeated (tokens : List Token) : Prop :=
  ∃ last ∈ tokens.getLast?, last.isSymbol repetitions = true

/-- A step is no symbol. -/
theorem Reader.isStep_isSymbol {token : Token} (h : isStep token = true) (symbols : List String) :
    token.isSymbol symbols = false := by
  refine Bool.eq_false_iff.mpr fun is => ?_
  have kind := kind_of_isSymbol is
  rcases (Bool.or_eq_true _ _).mp h with resource | word
  · rcases kind_of_isResource resource with other | other <;> rw [kind] at other <;> cases other
  · rw [not_spells (by rw [kind]; decide)] at word
    cases word

theorem repeated_append {front tokens : List Token} (h : tokens ≠ []) :
    Repeated (front ++ tokens) ↔ Repeated tokens := by
  unfold Repeated
  rw [List.getLast?_append_of_ne_nil front h]

theorem repeated_concat {front : List Token} {last : Token} :
    Repeated (front ++ [last]) ↔ last.isSymbol repetitions = true := by
  simp [Repeated]

theorem Repeated.singleton {token : Token} : Repeated [token] ↔ token.isSymbol repetitions = true :=
  @repeated_concat [] token

theorem IsInverseStep.not_repeated {tokens : List Token} (h : IsInverseStep tokens) : ¬Repeated tokens := by
  cases h with
  | step _ step =>
    rw [repeated_concat, Reader.isStep_isSymbol step]
    exact Bool.false_ne_true

/-- A step, inverted or not, starts with no bracket. -/
theorem IsInverseStep.exists_cons {tokens : List Token} (h : IsInverseStep tokens) :
    ∃ first others, tokens = first :: others ∧ first.isSymbol ["(", ")"] = false := by
  cases h with
  | step inverse step =>
    cases inverse with
    | none => exact ⟨_, _, rfl, Reader.isStep_isSymbol step _⟩
    | some inverts => exact ⟨_, _, rfl, Token.isSymbol_apart inverts (by decide)⟩

theorem IsInverseStep.ne_nil {tokens : List Token} (h : IsInverseStep tokens) : tokens ≠ [] := by
  obtain ⟨_, _, rfl, -⟩ := h.exists_cons
  exact List.cons_ne_nil _ _

/-- A closing bracket repeats nothing. -/
theorem not_repetition {closing : Token} (h : closing.isSymbol [")"] = true) :
    closing.isSymbol repetitions = false :=
  Token.isSymbol_apart h (by decide)

theorem IsNegatedSet.not_repeated {tokens : List Token} (h : IsNegatedSet tokens) : ¬Repeated tokens := by
  cases h with
  | one inverse => exact inverse.not_repeated
  | @none opening closing _ closes =>
    rw [show [opening, closing] = [opening] ++ [closing] from rfl, repeated_concat, not_repetition closes]
    exact Bool.false_ne_true
  | several _ _ closes =>
    rw [repeated_concat, not_repetition closes]
    exact Bool.false_ne_true

theorem IsNegatedSet.ne_nil {tokens : List Token} (h : IsNegatedSet tokens) : tokens ≠ [] := by
  cases h with
  | one inverse => exact inverse.ne_nil
  | none => exact List.cons_ne_nil _ _
  | several => exact List.append_ne_nil_of_right_ne_nil _ (List.cons_ne_nil _ _)

theorem IsPathPrimary.not_repeated {tokens : List Token} (h : IsPathPrimary tokens) : ¬Repeated tokens := by
  cases h with
  | step step =>
    rw [Repeated.singleton, Reader.isStep_isSymbol step]
    exact Bool.false_ne_true
  | group _ _ closes =>
    rw [repeated_concat, not_repetition closes]
    exact Bool.false_ne_true
  | @negated negation set _ excluded =>
    rw [show negation :: set = [negation] ++ set from rfl, repeated_append excluded.ne_nil]
    exact excluded.not_repeated

/-- The middle of an element starts with a token that inverts nothing. -/
theorem IsPathPrimary.exists_cons {tokens : List Token} (h : IsPathPrimary tokens) :
    ∃ first others, tokens = first :: others ∧ first.isSymbol ["^"] = false := by
  cases h with
  | step step => exact ⟨_, _, rfl, Reader.isStep_isSymbol step _⟩
  | group opens _ _ => exact ⟨_, _, rfl, Token.isSymbol_apart opens (by decide)⟩
  | negated negates _ => exact ⟨_, _, rfl, Token.isSymbol_apart negates (by decide)⟩

theorem IsPathPrimary.ne_nil {tokens : List Token} (h : IsPathPrimary tokens) : tokens ≠ [] := by
  obtain ⟨_, _, rfl, -⟩ := h.exists_cons
  exact List.cons_ne_nil _ _

theorem IsPathElement.ne_nil {tokens : List Token} (h : IsPathElement tokens) : tokens ≠ [] := by
  cases h with
  | element _ middle _ =>
    rw [List.append_assoc]
    exact List.append_ne_nil_of_right_ne_nil _ (List.append_ne_nil_of_left_ne_nil middle.ne_nil _)

/-- An element that is not repeated can be. -/
theorem IsPathElement.repeat {tokens : List Token} {token : Token} (h : IsPathElement tokens) (last : ¬Repeated tokens)
    (is : token.isSymbol repetitions = true) : IsPathElement (tokens ++ [token]) := by
  cases h with
  | element inverse middle repetition =>
    cases repetition with
    | none =>
      rw [List.append_nil]
      exact .element inverse middle (.some is)
    | some is' => exact absurd (repeated_concat.mpr is') last

/-! ## Where a path ends -/

/-- **No separator follows, and a repetition only behind another.** -/
def Ends (marks : List String) (taken rest : List Token) : Prop :=
  ∀ next ∈ rest.head?, next.isSymbol marks = false ∧ (next.isSymbol repetitions = true → Repeated taken)

theorem Token.isSymbol_nil (token : Token) : token.isSymbol [] = false := by
  unfold isSymbol isPunctuation
  cases token.symbol? <;> rfl

namespace Ends

variable {marks : List String} {taken rest : List Token}

theorem nil : Ends marks taken [] := nofun

/-- A token of another kind ends a path. -/
theorem cons {next : Token} (mark : next.isSymbol marks = false) (repetition : next.isSymbol repetitions = false) :
    Ends marks taken (next :: rest) := by
  intro _ same
  obtain rfl := Option.some.inj same
  exact ⟨mark, fun is => absurd (repetition.symm.trans is) Bool.false_ne_true⟩

theorem append {front : List Token} (h : taken ≠ []) : Ends marks (front ++ taken) rest ↔ Ends marks taken rest := by
  unfold Ends
  rw [repeated_append h]

/-- One separator more. -/
theorem mark {mark : String} :
    Ends (mark :: marks) taken rest ↔ Ends marks taken rest ∧ rest.head?.any (·.isSymbol [mark]) = false := by
  unfold Ends
  cases rest with
  | nil => simp
  | cons next rest =>
    simp only [List.head?_cons, Option.mem_def, Option.some.injEq, forall_eq', Option.any_some]
    rw [Token.isSymbol_cons, Bool.or_eq_false_iff]
    tauto

end Ends

end QuerySignature
