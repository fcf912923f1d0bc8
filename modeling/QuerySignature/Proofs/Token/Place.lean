import Mathlib.Data.List.Induction
import Mathlib.Tactic.Common
import QuerySignature.Query.Pattern
import QuerySignature.Token.Basic

/-!
# Proofs/Token/Place — lines, columns and slices

The place behind a text counts its line feeds (`Position.after_line`) and the characters behind the last of
them (`Position.isLineStart_after`), so the places of one text are told apart by line and column
(`Position.offset_unique`).  A span cuts a slice out of a text.
-/

namespace QuerySignature

/-! ## Slices -/

namespace Span

/-- **The characters of a span.** -/
def slice (span : Span) (text : Text) : Text :=
  (text.take span.stop.toNat).drop span.start.toNat

variable {before text after : Text}

/-- A piece of a text is the slice between its ends. -/
theorem slice_mid (before text after : Text) :
    slice ⟨(before.length : Int), (before.length : Int) + text.length⟩ (before ++ text ++ after) = text := by
  have stop : ((before.length : Int) + text.length).toNat = (before ++ text).length := by
    rw [List.length_append]
    omega
  rw [slice, stop, List.take_left, Int.toNat_natCast, List.drop_left]

end Span

/-- The span of a token. -/
def Token.span (token : Token) : Span :=
  ⟨token.position.offset, token.stop⟩

/-- **The token wherever it stands**: its kind and its text. -/
def Token.unplaced (token : Token) : Token :=
  ⟨token.kind, token.text, .start⟩

/-! ## Places -/

namespace Position

@[simp]
theorem start_offset : start.offset = 0 := rfl

theorem start_after_offset (text : Text) : (start.after text).offset = text.length := by
  rw [after_offset, start_offset, Int.zero_add]

/-- **A line is counted by its line feeds.** -/
theorem after_line (place : Position) (text : Text) :
    (place.after text).line = place.line + text.count '\n' := by
  induction text generalizing place with
  | nil => simp
  | cons c rest ih =>
    rw [after_cons, ih, List.count_cons, next]
    by_cases h : c = '\n'
    · simp only [h, if_true, BEq.rfl]
      omega
    · simp [h]

/-- On one line the columns count the characters. -/
theorem after_column {text : Text} (place : Position) (h : '\n' ∉ text) :
    (place.after text).column = place.column + text.length := by
  induction text generalizing place with
  | nil => simp
  | cons c rest ih =>
    obtain ⟨first, others⟩ := not_or.mp (mt List.mem_cons.mpr h)
    rw [after_cons, ih _ others, next, if_neg (Ne.symm first), List.length_cons]
    push_cast
    omega

/-- A text is whole lines and the beginning of one. -/
theorem exists_lines (text : Text) :
    ∃ lines tail, text = lines ++ tail ∧ '\n' ∉ tail ∧ (start.after lines).column = 1 ∧
      (lines = [] ∨ lines.getLast? = some '\n') := by
  induction text using List.reverseRecOn with
  | nil => exact ⟨[], [], rfl, List.not_mem_nil, rfl, .inl rfl⟩
  | append_singleton text c ih =>
    by_cases h : c = '\n'
    · refine ⟨text ++ [c], [], (List.append_nil _).symm, List.not_mem_nil, ?_, .inr ?_⟩
      · rw [after_append, after_cons, next, if_pos h, after_nil]
      · rw [List.getLast?_concat, h]
    · obtain ⟨lines, tail, rfl, free, column, first⟩ := ih
      refine ⟨lines, tail ++ [c], List.append_assoc .., ?_, column, first⟩
      rw [List.mem_append, List.mem_singleton]
      exact not_or.mpr ⟨free, Ne.symm h⟩

/-- **The line of an offset starts at another one**: there the text starts or a line feed ends, and no line
feed lies between them. -/
def IsLineStart (text : Text) (lineStart offset : Int) : Prop :=
  0 ≤ lineStart ∧ lineStart ≤ offset ∧
    (lineStart = 0 ∨ text[(lineStart - 1).toNat]? = some '\n') ∧
    '\n' ∉ Span.slice ⟨lineStart, offset⟩ text

/-- **A column counts from the start of its line.** -/
theorem isLineStart_after (passed rest : Text) :
    IsLineStart (passed ++ rest) ((start.after passed).offset - ((start.after passed).column - 1))
      (start.after passed).offset := by
  obtain ⟨lines, tail, rfl, free, column, first⟩ := exists_lines passed
  have offset := start_after_offset (lines ++ tail)
  have at_ : (start.after (lines ++ tail)).offset - ((start.after (lines ++ tail)).column - 1) =
      (lines.length : Int) := by
    rw [offset, after_append, after_column _ free, column, List.length_append]
    push_cast
    omega
  rw [at_, offset, List.length_append, Int.natCast_add]
  refine ⟨Int.natCast_nonneg _, by omega, ?_, ?_⟩
  · rcases first with rfl | last
    · exact .inl rfl
    · have pos : 0 < lines.length := by
        cases lines with
        | nil => cases last
        | cons => exact Nat.succ_pos _
      right
      rw [show ((lines.length : Int) - 1).toNat = lines.length - 1 by omega, List.append_assoc,
        List.getElem?_append_left (by omega), ← List.getLast?_eq_getElem?, last]
  · rwa [Span.slice_mid]

/-- **Line and column determine the offset.** -/
theorem offset_unique {text first second rest rest' : Text} (h : text = first ++ rest)
    (h' : text = second ++ rest') (line : (start.after first).line = (start.after second).line)
    (column : (start.after first).column = (start.after second).column) :
    (start.after first).offset = (start.after second).offset := by
  -- of two beginnings of the text one continues the other, and within a line columns grow
  have same {a b : Text} (line : (start.after a).line = (start.after (a ++ b)).line)
      (column : (start.after a).column = (start.after (a ++ b)).column) : b = [] := by
    rw [after_append, after_line (start.after a)] at line
    have free : '\n' ∉ b := List.count_eq_zero.mp (by omega)
    rw [after_append, after_column _ free] at column
    exact List.length_eq_zero_iff.mp (by omega)
  rcases List.append_eq_append_iff.mp (h.symm.trans h') with ⟨b, rfl, -⟩ | ⟨b, rfl, -⟩
  · rw [same line column, List.append_nil]
  · rw [same line.symm column.symm, List.append_nil]

end Position

end QuerySignature
