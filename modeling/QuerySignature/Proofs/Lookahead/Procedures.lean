import QuerySignature.Proofs.Lookahead.Rules

/-!
# Proofs/Lookahead/Procedures — the first tokens of nodes, verbs, constraints and patterns

The first tokens of a procedure are written twice: as a predicate of one token or two, and as the order of the branches of
the procedure, several calls deep.  Each predicate is brought into the order of the branches (`startsNode_read`,
`startsVerb_next`, `startsConstraint_read`, `startsPattern_next`), and one pass over them then shows that the procedure does
what the predicate says (`node_heeds`, `verb_heeds`, `constraint_heeds`, `pattern_heeds`).
-/

namespace QuerySignature

theorem Token.spells_cons {token : Token} (word : String) (others : List String) :
    token.spells (word :: others) = (token.spells [word] || token.spells others) := by
  unfold spells isKeyword
  cases token.word? with
  | none => rfl
  | some text => simp

namespace Reader

variable {α β : Type} {depth : Option Inside} {tokens rest : List Token} {b : Bool} {full : Prop} {brackets : List String}

/-! ## First tokens -/

theorem startsNode_read (tokens : List Token) : startsNode.read tokens = .done
    ((tokens.head?.any isAtom || (tokens.head?.any (·.isSymbol ["["]) || tokens.head?.any (·.isSymbol ["("]))) ||
      (tokens.head?.any (·.isSymbol ["+", "-"]) && tokens.tail.head?.any Token.isNumeric)) tokens := by
  have first : (tokens.head?.any fun token => isAtom token || token.isSymbol ["[", "("]) =
      (tokens.head?.any isAtom || (tokens.head?.any (·.isSymbol ["["]) || tokens.head?.any (·.isSymbol ["("]))) := by
    cases tokens.head? with
    | none => rfl
    | some token => exact congrArg (isAtom token || ·) (Token.isSymbol_cons _ _)
  rw [startsNode, bind_read, next_read, first]
  dsimp only
  split
  · next starts => rw [starts]; rfl
  · next other => rw [Bool.eq_false_iff.mpr other]; rfl

theorem startsVerb_next (tokens : List Token) : tokens.head?.any startsVerb =
    ((tokens.head?.any (·.kind = .var) || tokens.head?.any isStep) || (tokens.head?.any (·.isSymbol ["^"]) ||
      (tokens.head?.any (·.isSymbol ["("]) || tokens.head?.any (·.isSymbol ["!"])))) := by
  cases tokens.head? with
  | none => rfl
  | some token =>
    simp only [Option.any_some, startsVerb]
    rw [Token.isSymbol_cons, Token.isSymbol_cons "("]

theorem startsConstraint_read (tokens : List Token) : startsConstraint.read tokens = .done
    ((tokens.head?.any (·.isSymbol ["("]) || tokens.head?.any (·.spells ["EXISTS", "NOT"])) ||
      (tokens.head?.any isCallable && tokens.tail.head?.any (·.isSymbol ["("]))) tokens := by
  have first : (tokens.head?.any fun token => token.isSymbol ["("] || token.spells ["EXISTS", "NOT"]) =
      (tokens.head?.any (·.isSymbol ["("]) || tokens.head?.any (·.spells ["EXISTS", "NOT"])) := by
    cases tokens.head? <;> rfl
  exact congrArg (fun first => Reading.done (first || _) tokens) first

theorem startsPattern_next (tokens : List Token) : tokens.head?.any startsPattern =
    (tokens.head?.any (·.isSymbol ["\x7b"]) || (tokens.head?.any (·.spells ["OPTIONAL"]) ||
      (tokens.head?.any (·.spells ["MINUS"]) || (tokens.head?.any (·.spells ["GRAPH"]) ||
        (tokens.head?.any (·.spells ["SERVICE"]) || (tokens.head?.any (·.spells ["FILTER"]) ||
          (tokens.head?.any (·.spells ["BIND"]) || tokens.head?.any (·.spells ["VALUES"])))))))) := by
  cases tokens.head? with
  | none => rfl
  | some token =>
    simp only [Option.any_some, startsPattern]
    rw [Token.spells_cons "OPTIONAL", Token.spells_cons "MINUS", Token.spells_cons "GRAPH",
      Token.spells_cons "SERVICE", Token.spells_cons "FILTER", Token.spells_cons "BIND"]

/-! ## Procedures -/

/-- Terms are atoms, or numbers behind a sign. -/
theorem term_heeds : Heeds full brackets term tokens
    (tokens.head?.any isAtom || (tokens.head?.any (·.isSymbol ["+", "-"]) && tokens.tail.head?.any Token.isNumeric)) := by
  refine .orElse (fun atom => ?_) fun notAtom => ?_
  · rw [atom, Bool.true_or]
  · rw [notAtom, Bool.false_or]
    cases signed : tokens.head?.any (·.isSymbol ["+", "-"]) && tokens.tail.head?.any Token.isNumeric with
    | true => exact (Heeds.acceptTwo? signed).bind.bind
    | false =>
      have unsigned : signedNumber?.read tokens = .done none tokens :=
        bind_done.mpr ⟨none, tokens, (acceptTwo?_missed (Bool.eq_false_iff.mp signed)).1, rfl⟩
      exact .behind unsigned (.refuse rfl)

section Procedures

variable (ceiling : depth = none → full)
include ceiling

/-- **Nodes** start with an atom, a bracket, or a sign in front of a number. -/
theorem node_heeds (starts : startsNode.read tokens = .done b tokens) : Heeds full ["[", "("] (node depth) tokens b := by
  rw [startsNode_read] at starts
  obtain ⟨rfl, -⟩ := Reading.done.inj starts
  refine .orTwo (fun empty => ?_) fun _ => .orOpen ceiling (by decide) (fun is => ?_) fun notSquare =>
    .orOpen ceiling (by decide) (fun is => ?_) fun notRound => ?_
  · rw [((Bool.and_eq_true _ _).mp empty).1, Bool.true_or, Bool.or_true, Bool.true_or]
  · rw [is, Bool.true_or, Bool.or_true, Bool.true_or]
  · rw [is, Bool.or_true, Bool.or_true, Bool.true_or]
  · rw [notSquare, notRound, Bool.or_self, Bool.or_false]
    exact term_heeds

/-- Elements of paths start with a step, an inversion, a bracket or a negation. -/
theorem pathElement_heeds (starts : tokens.head?.any startsVerb = true)
    (notVar : tokens.head?.any (·.kind = .var) = false) : Heeds full ["("] (pathElement depth) tokens true := by
  rw [startsVerb_next, notVar, Bool.false_or] at starts
  refine .orOptional (fun _ => rfl) fun notInverse => .bind ?_
  refine .orOpen ceiling (by decide) (fun _ => rfl) fun notRound => .orElse (fun _ => rfl) fun notNegated => .bind ?_
  rw [notInverse, notRound, notNegated, Bool.or_self, Bool.or_self, Bool.or_false] at starts
  exact .require starts

/-- **Verbs** start with a variable or like a path. -/
theorem verb_heeds : Heeds full ["("] (verb depth) tokens (tokens.head?.any startsVerb) := by
  refine .orElse (fun var => ?_) fun notVar => .ifNext (fun starts => ?_) .refuse
  · rw [startsVerb_next, var, Bool.true_or, Bool.true_or]
  · rw [starts]
    exact (pathElement_heeds ceiling starts notVar).bind.bind.bind

omit ceiling in
/-- Tests start with a negation or with their own word. -/
theorem existsTest_heeds (word : tokens.head?.any (·.spells ["NOT", "EXISTS"]) = true) :
    Heeds full brackets (existsTest depth) tokens true := by
  refine .bind (.taking (.ifAccept (fun _ => rfl) fun notNegated => .bind (.require ?_)))
  cases next : tokens.head? with
  | none =>
    rw [next] at word
    cases word
  | some token =>
    rw [next, Option.any_some] at word notNegated
    rwa [Token.spells_cons, notNegated, Bool.false_or] at word

omit ceiling in
/-- **Constraints** start with a bracket, with a test, or with a name in front of a bracket. -/
theorem constraint_heeds (starts : startsConstraint.read tokens = .done b tokens) :
    Heeds full brackets (constraint depth) tokens b := by
  rw [startsConstraint_read] at starts
  obtain ⟨rfl, -⟩ := Reading.done.inj starts
  have same : (tokens.head?.any fun token => token.spells ["EXISTS", "NOT"]) =
      tokens.head?.any fun token => token.spells ["NOT", "EXISTS"] := by
    cases tokens.head? with
    | none => rfl
    | some token =>
      simp only [Option.any_some, Token.spells_cons "EXISTS" ["NOT"], Token.spells_cons "NOT" ["EXISTS"], Bool.or_comm]
  rw [same]
  refine .ifAccept (fun round => ?_) fun notRound => .ifNext (fun word => ?_) fun notWord => ?_
  · rw [round, Bool.true_or, Bool.true_or]
  · rw [word, Bool.or_true, Bool.true_or]
    exact (existsTest_heeds word).bind
  · rw [notRound, notWord, Bool.or_self, Bool.false_or]
    cases call : tokens.head?.any isCallable && tokens.tail.head?.any (·.isSymbol ["("]) with
    | true =>
      have starts : startsCall.read tokens = .done true tokens := congrArg (Reading.done · tokens) call
      exact .behind starts (.bind (.require ((Bool.and_eq_true _ _).mp call).1))
    | false =>
      have starts : startsCall.read tokens = .done false tokens := congrArg (Reading.done · tokens) call
      exact .behind starts (.refuse rfl)

omit ceiling in
/-- **Patterns** start with a brace or one of their words. -/
theorem pattern_heeds : Heeds full brackets (pattern depth) tokens (tokens.head?.any startsPattern) := by
  have group_heeds (brace : tokens.head?.any (·.isSymbol ["\x7b"]) = true) :
      Heeds full brackets (group depth) tokens true := .bind (.require brace)
  have values_heeds : Heeds full brackets values tokens (tokens.head?.any (·.spells ["VALUES"])) :=
    .asBlock (.bind (.require rfl))
  rw [startsPattern_next]
  refine .ifNext (fun brace => ?alternatives) fun notBrace => .ifAccept (fun is => ?_) fun notOptional =>
    .ifAccept (fun is => ?_) fun notMinus => .ifAccept (fun is => ?_) fun notGraph =>
    .ifAccept (fun is => ?_) fun notService => .ifAccept (fun is => ?_) fun notFilter =>
    .ifAccept (fun is => ?_) fun notBind => ?values
  case alternatives =>
    rw [brace, Bool.true_or]
    exact (group_heeds brace).bind
  case values =>
    rw [notBrace, notOptional, notMinus, notGraph, notService, notFilter, notBind]
    simp only [Bool.false_or]
    exact values_heeds.bind
  all_goals simp only [is, Bool.true_or, Bool.or_true]

end Procedures

end Reader

end QuerySignature
