import QuerySignature.Proofs.Outcome.Run
import QuerySignature.Proofs.Query.Escapes
import QuerySignature.Proofs.Token.Words

/-!
# Proofs/Outcome/Settled — what can come of a text

Every text is read as a query or rejected with a report, whatever its names and numbers, with two exceptions: an
escape that names no code point, and a slice by a number of too many digits (`parse_settled`).
-/

namespace QuerySignature

/-- **The outcome is settled**: a query is read, or a report is made. -/
def Settled (outcome : Except Failure Query) : Prop :=
  (∃ query, outcome = .ok query) ∨ ∃ error, outcome = .error (.rejected error)

/-- **A term among the tokens has no value**: the body of a literal is not well escaped, or a slice is by a number
of too many digits. -/
inductive Illegible (tokens : List Token) : Unreadable → Prop where
  | escape {token : Token} {body : Text} {behind : Literal.Annotation} {term : Unreadable} :
      token ∈ tokens → token.kind = .literal → Literal.split? token.text = some (body, behind) →
      ¬Literal.WellEscaped body → Literal.decoded body = .error term → Illegible tokens term
  | numeral {keyword number : Token} :
      [keyword, number] <:+: tokens → keyword.spells ["LIMIT", "OFFSET"] = true → number.kind = .literal →
      number.text.all Text.isDecimal = true → Text.maxDigits < number.text.length →
      Illegible tokens (.numeral number.text)

variable {limits : Limits} {text : Text} {tokens : List Token} {token : Token} {term : Unreadable}

/-! ## Tokens of a text -/

/-- The tokens in front of the one that ends a text are words that the scanner has found. -/
theorem found_of_tokenize (h : tokenize limits text = .ok tokens)
    (member : token ∈ (Token.beforeEnd tokens).1) : token.Found := by
  obtain ⟨-, pieces, cut, -, -, rfl⟩ := tokenize_eq_ok.mp h
  rw [beforeEnd_placed cut] at member
  exact found_of_mem cut member

theorem mem_of_mem_beforeEnd (h : token ∈ (Token.beforeEnd tokens).1) : token ∈ tokens :=
  (List.takeWhile_prefix _).mem h

/-! ## Terms without a value -/

/-- A word without a value is a literal that is not well escaped. -/
theorem illegible_of_valueless (h : tokenize limits text = .ok tokens)
    (member : token ∈ (Token.beforeEnd tokens).1) (valueless : token.Valueless term) : Illegible tokens term := by
  cases valueless with
  | literal kind read =>
    obtain ⟨body, annotation, split, fault⟩ := Literal.read_error read
    refine .escape (mem_of_mem_beforeEnd member) kind split (fun escaped => ?_) fault
    obtain ⟨codes, decoded⟩ := Literal.decoded_ok_iff.mpr escaped
    rw [decoded] at fault
    cases fault
  | colonless is free =>
    obtain ⟨kind, -⟩ := Bool.and_eq_true_iff.mp is
    obtain ⟨before, rest, -, found⟩ := found_of_tokenize h member
    rw [of_decide_eq_true kind] at found
    exact absurd (Scan.colon_mem_of_name found) free

/-- A number without a value has too many digits. -/
theorem illegible_of_numeral (h : tokenize limits text = .ok tokens) {keyword number : Token}
    (behind : [keyword, number] <:+: (Token.beforeEnd tokens).1) (slices : keyword.spells ["LIMIT", "OFFSET"] = true)
    (digits : Reader.isDigits number = true) (none_ : Text.natural? number.text = none) :
    Illegible tokens (.numeral number.text) := by
  obtain ⟨kind, digits⟩ := Bool.and_eq_true_iff.mp digits
  have kind := of_decide_eq_true kind
  obtain ⟨before, rest, -, found⟩ := found_of_tokenize h (behind.subset (.tail _ (.head _)))
  rw [kind] at found
  have decimal := Scan.isDecimal_of_isDigits found digits
  have some_ : number.text ≠ [] := List.length_pos_iff.mp (Scan.lexeme?_extent found).1
  exact .numeral (behind.trans (List.takeWhile_prefix _).isInfix) slices kind decimal
    ((Text.natural?_eq_none decimal some_).mp none_)

/-! ## Outcomes -/

theorem unreadable_of_failure {fault : Fault} {stop : Position}
    (h : fault.failure limits stop = .unreadable term) : fault = .unreadable term := by
  cases fault with
  | unexpected expected found => cases found <;> cases h
  | tooDeep | rowLength => cases h
  | unreadable => rw [Failure.unreadable.inj h]

/-- **Every text is read or rejected**, unless a term of it has no value. -/
theorem parse_settled (limits : Limits) (text : Text) :
    Settled (parse limits text) ∨
      ∃ tokens term, tokenize limits text = .ok tokens ∧ Illegible tokens term ∧
        parse limits text = .error (.unreadable term) := by
  cases outcome : parse limits text with
  | ok query => exact .inl (.inl ⟨query, rfl⟩)
  | error failure =>
    cases failure with
    | rejected error => exact .inl (.inr ⟨error, rfl⟩)
    | unreadable term =>
      obtain ⟨_, _, same⟩ | ⟨tokens, fault, rest, h, stopped, same⟩ := parse_eq_error outcome
      · cases same
      obtain rfl := unreadable_of_failure same
      have run := limits.reader_orderly (S := (· ∈ (Token.beforeEnd tokens).1)) fun _ member => member
      have whole := limits.reader.taken_append (Token.beforeEnd tokens).1
      have ends := run.ends
      rw [stopped] at ends
      refine .inr ⟨tokens, term, h, ?_, rfl⟩
      cases ends with
      | stopped due =>
        cases due with
        | unreadable member valueless => exact illegible_of_valueless h member valueless
        | numeral last slices digits none_ =>
          refine illegible_of_numeral h ?_ slices digits none_
          rw [← whole]
          exact last.isInfix.trans (List.prefix_append _ _).isInfix

/-- An escape without its digits leaves a text neither read nor rejected. -/
theorem not_settled_of_escape :
    parse .standard "ASK \x7b ?s ?p \"\\u\" \x7d".toList = .error (.unreadable (.escapeDigits 'u')) ∧
      ¬Settled (parse .standard "ASK \x7b ?s ?p \"\\u\" \x7d".toList) := by
  have unread : parse .standard "ASK \x7b ?s ?p \"\\u\" \x7d".toList = .error (.unreadable (.escapeDigits 'u')) := rfl
  refine ⟨unread, ?_⟩
  rintro (⟨query, read⟩ | ⟨error, rejected⟩)
  · rw [unread] at read
    cases read
  · rw [unread] at rejected
    cases rejected

end QuerySignature
