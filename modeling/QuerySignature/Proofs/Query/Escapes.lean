import QuerySignature.Query.Literal

/-!
# Proofs/Query/Escapes — which bodies have a value

A body is decoded exactly if each of its escapes that names a code point does so with the hexadecimal digits
it needs (`decoded_ok_iff`).  A literal without a value is quoted, and its body is not well escaped (`read_error`).
-/

namespace QuerySignature.Literal

/-- **Every escape of the body has a value**: `u` is followed by four hexadecimal digits, and `U` by eight that
name a code point.  Before any other character, and at the end, a backslash needs nothing. -/
inductive WellEscaped : Text → Prop where
  | nil : WellEscaped []
  | plain {c : Char} {rest : Text} : c ≠ '\\' → WellEscaped rest → WellEscaped (c :: rest)
  | last : WellEscaped ['\\']
  | single {c : Char} {rest : Text} : c ≠ 'u' → c ≠ 'U' → WellEscaped rest → WellEscaped ('\\' :: c :: rest)
  | short {a b c d : Char} {rest : Text} {code : Nat} : Text.hexNumber? [a, b, c, d] = some code →
      WellEscaped rest → WellEscaped ('\\' :: 'u' :: a :: b :: c :: d :: rest)
  | long {a b c d e f g h : Char} {rest : Text} {code : Nat} :
      Text.hexNumber? [a, b, c, d, e, f, g, h] = some code → code ≤ 0x10FFFF → WellEscaped rest →
      WellEscaped ('\\' :: 'U' :: a :: b :: c :: d :: e :: f :: g :: h :: rest)

/-- What is decoded is well escaped. -/
theorem wellEscaped_of_decodedFrom {body : Text} {codes found : List Nat}
    (h : decodedFrom body codes = .ok found) : WellEscaped body := by
  fun_induction decodedFrom body codes with
  | case1 => exact .nil
  | case2 a b c d rest codes code number ih => exact .short number (ih h)
  | case4 a b c d e f g i rest codes code number point known ih =>
    refine .long number ?_ (ih h)
    unfold codePoint at known
    split at known
    · assumption
    · cases known
  | case8 c rest codes _ _ other ih =>
    rw [not_or] at other
    exact .single other.1 other.2 (ih h)
  | case9 c rest codes _ _ free ih =>
    by_cases backslash : c = '\\'
    · subst backslash
      cases rest with
      | nil => exact .last
      | cons d rest => exact (free d rest rfl rfl).elim
    · exact .plain backslash (ih h)
  | _ => cases h

/-- What is well escaped is decoded. -/
theorem decodedFrom_of_wellEscaped {body : Text} (h : WellEscaped body) :
    ∀ codes, ∃ found, decodedFrom body codes = .ok found := by
  induction h with
  | nil => exact fun codes => ⟨_, rfl⟩
  | @plain c rest other _ ih =>
    intro codes
    rw [decodedFrom]
    · exact ih _
    · exact fun _ _ _ _ _ same => absurd same other
    · exact fun _ _ _ _ _ _ _ _ _ same => absurd same other
    · exact fun _ _ same => absurd same other
  | last => exact fun codes => ⟨_, rfl⟩
  | @single c rest u U _ ih =>
    intro codes
    rw [decodedFrom, if_neg (not_or.mpr ⟨u, U⟩)]
    · exact ih _
    · exact fun _ _ _ _ _ same => absurd same u
    · exact fun _ _ _ _ _ _ _ _ _ same => absurd same U
  | @short a b c d rest code number _ ih =>
    intro codes
    obtain ⟨found, ok⟩ := ih (code :: codes)
    exact ⟨found, by rw [decodedFrom, number]; exact ok⟩
  | @long a b c d e f g h rest code number small _ ih =>
    intro codes
    obtain ⟨found, ok⟩ := ih (code :: codes)
    exact ⟨found, by rw [decodedFrom, number]; dsimp only; rw [codePoint, if_pos small]; exact ok⟩

/-- **A body is decoded exactly if it is well escaped.** -/
theorem decoded_ok_iff {body : Text} : (∃ codes, decoded body = .ok codes) ↔ WellEscaped body :=
  ⟨fun ⟨_, ok⟩ => wellEscaped_of_decodedFrom ok, fun h => decodedFrom_of_wellEscaped h []⟩

/-- A body without backslashes has no escape. -/
theorem wellEscaped_of_not_mem {body : Text} (free : '\\' ∉ body) : WellEscaped body := by
  induction body with
  | nil => exact .nil
  | cons c rest ih =>
    rw [List.mem_cons, not_or] at free
    exact .plain (Ne.symm free.1) (ih free.2)

/-- **A literal without a value** is quoted, and its body has none. -/
theorem read_error {sign text : Text} {term : Unreadable} (h : read sign text = .error term) :
    ∃ body annotation, split? text = some (body, annotation) ∧ decoded body = .error term := by
  unfold read at h
  split at h
  · next body annotation split =>
    refine ⟨body, annotation, split, ?_⟩
    cases decoding : decoded body with
    | ok codes =>
      rw [decoding] at h
      cases h
    | error fault =>
      rw [decoding] at h
      cases h
      rfl
  · cases h

end QuerySignature.Literal
