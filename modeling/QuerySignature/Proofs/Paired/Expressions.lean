import QuerySignature.Proofs.Paired.Readers

/-!
# Proofs/Paired/Expressions — what an expression holds of its tokens

An expression is read from a run of tokens, and holds their texts, the variables among them, and the groups of their tests
(`expression_scanned`).  The brackets of the run pair up by number, and by kind if no brace stands loose in it
(`expression_paired`).  A loose brace may close a round bracket (`not_nested_of_expression`).
-/

namespace QuerySignature

open Reader (inside)

/-! ## Expressions and their tokens -/

/-- **The brackets of an expression pair up** by number, and by kind if no brace stands loose among its tokens, which stand
in a round bracket. -/
theorem expression_paired {brackets : Nat} {named : Bool} {tokens rest : List Token} {found : Expression}
    (read : (Reader.expression (inside brackets) named).read tokens = .done found rest) :
    ∃ taken, tokens = taken ++ rest ∧ Token.Balanced taken ∧
      (Token.tidy [[')']] false taken = true → Token.Nested taken) := by
  obtain ⟨scanned, -, is⟩ := Reader.expression_isRead (Reader.inside_rises brackets) read
  refine ⟨scanned.tokens, is.whole, is.balanced, fun tidy => ?_⟩
  exact is.balanced.nested (is.nests (fun tested : false = true => nomatch tested) tidy)

/-- A test between round brackets, and no loose brace. -/
theorem expression_paired_test :
    let token (kind : Token.Kind) (text : String) : Token := ⟨kind, text.toList, .start⟩
    let taken := [token .punctuation "(", token .keyword "EXISTS", token .punctuation "\x7b", token .punctuation "\x7d",
      token .punctuation ")"]
    let rest := [token .punctuation ")"]
    (Reader.expression (inside 2) false).read (taken ++ rest) =
        .done ⟨"( EXISTS \x7b \x7d )".toList, [], [.pattern []]⟩ rest ∧
      Token.tidy [[')']] false taken = true ∧ Token.Nested taken := by
  intro token taken rest
  have read : (Reader.expression (inside 2) false).read (taken ++ rest) =
      .done ⟨"( EXISTS \x7b \x7d )".toList, [], [.pattern []]⟩ rest := rfl
  have tidy : Token.tidy [[')']] false taken = true := rfl
  obtain ⟨run, whole, -, nested⟩ := expression_paired read
  obtain rfl : taken = run := List.append_cancel_right whole
  exact ⟨read, tidy, nested tidy⟩

/-- **A loose brace may close a round bracket** in a query that is read: its brackets do not nest by kind. -/
theorem not_nested_of_expression :
    ¬∀ (limits : Limits) (text : Text) (query : Query) (tokens here taken rest : List Token) (brackets : Nat)
      (named : Bool) (found : Expression), parse limits text = .ok query → tokenize limits text = .ok tokens →
      here <:+ (Token.beforeEnd tokens).1 →
      (Reader.expression (inside brackets) named).read here = .done found rest → here = taken ++ rest →
      Token.Nested taken := by
  intro always
  let opening : Token := ⟨.punctuation, ['('], ⟨1, 16, 15⟩⟩
  let var : Token := ⟨.var, "?x".toList, ⟨1, 18, 17⟩⟩
  let brace : Token := ⟨.punctuation, ['\x7d'], ⟨1, 21, 20⟩⟩
  let rest : List Token := [⟨.punctuation, [')'], ⟨1, 23, 22⟩⟩, ⟨.punctuation, ['\x7d'], ⟨1, 25, 24⟩⟩]
  have crossed := always .standard "ASK \x7b FILTER ( ( ?x \x7d ) \x7d".toList
    ⟨[], .ask (.pattern [.filter ⟨"( ?x \x7d".toList, [['x']], []⟩]) .empty none⟩ _ ([opening, var, brace] ++ rest)
    [opening, var, brace] rest 1 false ⟨"( ?x \x7d".toList, [['x']], []⟩ rfl rfl
    (List.suffix_append [_, _, _, _] _) rfl rfl
  exact absurd crossed (by decide)

end QuerySignature
