import QuerySignature.Proofs.Token.Digits
import QuerySignature.Proofs.Token.Head
import QuerySignature.Proofs.Token.Layout
import QuerySignature.Text.Numeral

/-!
# Proofs/Token/Words — what is in a word

What the scanner has seen in a word, whoever reads the word may count on: a name holds its colon
(`Scan.colon_mem_of_name`), and a literal of digits holds decimal digits only (`Scan.isDecimal_of_isDigits`), since
a number with a point or an exponent shows it.
-/

namespace QuerySignature

namespace Lexeme

variable {text : Text} {n : Nat}

/-! ## Names -/

/-- A blank label has a colon. -/
theorem blankLabel_colon (h : blankLabel text = some n) : ':' ∈ text.take n := by
  unfold blankLabel at h
  split at h
  · next c rest =>
    split at h
    · obtain rfl := Option.some.inj h
      obtain ⟨m, far⟩ := Nat.exists_eq_add_of_le (labelTail_extent rest (Nat.le_refl 3)).1
      rw [far, show 3 + m = m + 1 + 1 + 1 by omega]
      exact .tail _ (.head _)
    · cases h
  · cases h

/-- A namespace label ends at its colon. -/
theorem namespaceLabel_colon (h : namespaceLabel text = some n) : text[n]? = some ':' := by
  unfold namespaceLabel at h
  split at h
  · obtain rfl := Option.some.inj h
    rfl
  · next c rest _ =>
    simp only at h
    split at h
    · split at h
      · next colon =>
        obtain rfl := Option.some.inj h
        rw [List.getElem?_cons_succ, ← List.head?_drop]
        exact of_decide_eq_true (Bool.and_eq_true_iff.mp colon).2
      · cases h
    · cases h
  · cases h

/-- A prefixed name has a colon. -/
theorem prefixedName_colon (h : prefixedName text = some n) : ':' ∈ text.take n := by
  obtain ⟨k, label, rfl⟩ := Option.map_eq_some_iff.mp h
  have at_ : (text.take (k + 1 + localName (text.drop (k + 1)) 0 0))[k]? = some ':' := by
    rw [List.getElem?_take_of_lt (by omega)]
    exact namespaceLabel_colon label
  exact List.mem_of_getElem? at_

/-! ## Numbers -/

/-- An exponent begins with its letter. -/
theorem exponent_head (h : exponent text = some n) : ∃ mark ∈ ['e', 'E'], text.head? = some mark := by
  unfold exponent at h
  split at h
  · next e sign rest =>
    split at h
    · cases h
    · next mark => exact ⟨e, by simpa [or_iff_not_imp_left] using mark, rfl⟩
  · cases h

/-- A fraction begins with its point. -/
theorem fraction_head (h : fraction text = some n) : text.head? = some '.' := by
  unfold fraction at h
  split at h
  · rfl
  · cases h

/-- A mark inside a number is no digit. -/
theorem not_digits_of_mark {mark : Char} (k : Nat) (h : (text.drop k).head? = some mark)
    (plain : Text.isDigit mark = false) : text.all Text.isDigit = false := by
  rw [List.all_eq_false]
  exact ⟨mark, List.mem_of_mem_drop (List.mem_of_mem_head? h), by simp [plain]⟩

/-- A number with an exponent is not digits alone. -/
theorem not_digits_of_scaled {mantissa : Text → Option Nat} (h : scaled mantissa text = some n) :
    text.all Text.isDigit = false := by
  obtain ⟨k, m, -, behind, -⟩ := scaled_eq_some.mp h
  obtain ⟨mark, member, head⟩ := exponent_head behind
  refine not_digits_of_mark k head ?_
  rcases List.mem_pair.mp member with rfl | rfl <;> rfl

/-- A decimal is not digits alone. -/
theorem not_digits_of_decimal (h : decimal text = some n) : text.all Text.isDigit = false := by
  obtain ⟨m, behind, -⟩ := Option.map_eq_some_iff.mp h
  exact not_digits_of_mark _ (fraction_head behind) (by decide)

/-- A number that looks like digits is a run of decimal digits. -/
theorem isDecimal_of_number (h : number text = some text.length) (digits : text.all Text.isDigit = true) :
    text.all Text.isDecimal = true := by
  simp only [number, Option.or_eq_some_iff] at h
  rcases h with h | ⟨-, h | ⟨-, h | ⟨-, h⟩⟩⟩
  · rw [not_digits_of_scaled h] at digits
    cases digits
  · rw [not_digits_of_scaled h] at digits
    cases digits
  · rw [not_digits_of_decimal h] at digits
    cases digits
  · have whole : run Text.isDecimal (text ++ []) = text.length := by
      rw [List.append_nil]
      exact (run?_eq_some.mp h).1
    exact (run_eq_length.mp whole).1

/-- A digit has no case. -/
theorem toUpper_of_isDigit {c : Char} (h : Text.isDigit c = true) : c.toUpper = c := by
  refine dif_neg ?_
  rintro ⟨low, high⟩
  have letter : 97 ≤ c.toNat ∧ c.toNat ≤ 122 := ⟨low, high⟩
  rw [Text.isDigit_of_ascii (by omega), Char.isDigit, Bool.and_eq_true_iff, decide_eq_true_iff, decide_eq_true_iff] at h
  have digit : c.toNat ≤ 57 := h.2
  omega

end Lexeme

/-! ## Words -/

/-- The token is a word that the scanner finds in front of some text. -/
def Token.Found (token : Token) : Prop :=
  ∃ before rest, token.text.head?.any Text.isBlank = false ∧
    Scan.lexeme? before (token.text ++ rest) = some (.token token.kind, token.text.length)

/-- **The scanner has found each token of a cut.** -/
theorem found_of_mem {before : Option Char} {pieces : List Piece} {position : Position} {rest : Text}
    {token : Token} (cut : IsCut before pieces rest) (h : token ∈ Piece.placed position pieces) : token.Found := by
  obtain ⟨front, kind, text, back, rfl, rfl⟩ := mem_placed h
  obtain ⟨-, stands, -⟩ := isCut_append.mp cut
  exact ⟨_, _, stands⟩

/-- A word that has been found is not empty. -/
theorem Token.Found.ne_nil {token : Token} (found : token.Found) : token.text ≠ [] := by
  obtain ⟨_, _, -, at_⟩ := found
  exact List.length_pos_iff.mp (Scan.lexeme?_extent at_).1

namespace Scan

open Lexeme

variable {before : Option Char} {text rest : Text}

/-- **A name holds a colon.** -/
theorem colon_mem_of_name (h : lexeme? before (text ++ rest) = some (.token .prefixedName, text.length)) :
    ':' ∈ text := by
  have rule : blankLabel (text ++ rest) = some text.length ∨ prefixedName (text ++ rest) = some text.length := by
    have cases_ := lexeme?_cases h
    simpa using cases_
  have inside := rule.elim blankLabel_colon prefixedName_colon
  rwa [List.take_left] at inside

/-- **A literal that looks like digits is a run of decimal digits.** -/
theorem isDecimal_of_isDigits (h : lexeme? before (text ++ rest) = some (.token .literal, text.length))
    (digits : Text.isDigits text = true) : text.all Text.isDecimal = true := by
  have rule : quotedLiteral (text ++ rest) = some text.length ∨ number (text ++ rest) = some text.length ∨
      truthValue before (text ++ rest) = some text.length := by
    have cases_ := lexeme?_cases h
    simpa using cases_
  obtain ⟨some_, all⟩ := Bool.and_eq_true_iff.mp digits
  cases text with
  | nil => cases some_
  | cons c text =>
    have digit : Text.isDigit c = true := (Bool.and_eq_true_iff.mp all).1
    have not_ {mark : Char} (plain : Text.isDigit mark = false) : c ≠ mark := by
      rintro rfl
      rw [plain] at digit
      cases digit
    rcases rule with quoted | numeral | truth
    · rw [List.cons_append, quotedLiteral_of_ne (not_ (by decide)) (not_ (by decide))] at quoted
      cases quoted
    · exact isDecimal_of_number (number_alone numeral) all
    · have upper {mark : Char} (plain : Text.isDigit mark = false) : c.toUpper ≠ mark := by
        rw [toUpper_of_isDigit digit]
        exact not_ plain
      rw [List.cons_append, truthValue_of_ne (upper (by decide)) (upper (by decide))] at truth
      cases truth

end Scan

end QuerySignature
