import QuerySignature.Proofs.Token.Relaid

/-!
# Proofs/Token/Enclosed — a text between the braces of a selection

A text that has tokens has the same ones with a line feed in front and another behind (`IsCut.line`): a comment at its
end still ends there, a bracket that opened no IRI still opens none, and nothing that follows closes a string.  So the
tokens of the text stand in the middle of those of a selection around it.
-/

namespace QuerySignature

open Piece Lexeme

/-- **The selection of everything that a text selects.** -/
def Text.enclosed (text : Text) : Text :=
  "SELECT * WHERE \x7b\n".toList ++ text ++ "\n\x7d".toList

/-- **A text that is cut to its end** is cut in the same way in front of a line feed. -/
theorem IsCut.line {before before' : Option Char} {pieces : List Piece} {z : Text}
    (open_ : ∀ mark, mark = '"' ∨ mark = '\'' → closes mark z = false)
    (joined : before'.any joinsWord = before.any joinsWord) (cut : IsCut before pieces []) :
    IsCut before' pieces ('\n' :: z) := by
  have spacing : Spacing [] ('\n' :: z) := ⟨rfl, rfl, fun _ => rfl⟩
  have stays (mark : Char) (quote : mark = '"' ∨ mark = '\'') (s : Text) (h : closes mark (s ++ []) = false) :
      closes mark (s ++ '\n' :: z) = false := by
    have plain : '\n' ≠ mark := by obtain rfl | rfl := quote <;> decide
    rw [List.append_nil] at h
    have ends : longString mark s 0 = none := longString_eq_none.mpr h
    exact longString_eq_none.mp (longString_append_plain plain (by decide) ends (open_ mark quote))
  induction pieces generalizing before before' with
  | nil => trivial
  | cons piece pieces ih =>
    obtain ⟨stands, cut⟩ := cut
    have last : lastOr before' piece.text = lastOr before piece.text :=
      lastOr_of_ne_nil (List.length_pos_iff.mp stands.length_pos) _ _
    exact ⟨stands.spacing _ spacing stays (fun _ => rfl) joined, ih (congrArg (Option.any joinsWord) last) cut⟩

namespace Piece

/-- The pieces in front of the text. -/
def opening : List Piece :=
  [.word .keyword "SELECT".toList, .blank ' ', .word .punctuation ['*'], .blank ' ', .word .keyword "WHERE".toList,
    .blank ' ', .word .punctuation ['\x7b'], .blank '\n']

/-- The pieces behind the text. -/
def closing : List Piece :=
  [.blank '\n', .word .punctuation ['\x7d']]

/-- The pieces of a selection around pieces. -/
def enclosed (pieces : List Piece) : List Piece :=
  opening ++ (pieces ++ closing)

theorem written_opening : written opening = "SELECT * WHERE \x7b\n".toList := rfl

theorem written_closing : written closing = "\n\x7d".toList := rfl

theorem written_enclosed (pieces : List Piece) : written (enclosed pieces) = (written pieces).enclosed := by
  unfold enclosed Text.enclosed
  rw [written_append, written_append, written_opening, written_closing, List.append_assoc]

end Piece

/-- The pieces in front of the text are cut whatever it is. -/
theorem isCut_opening (rest : Text) : IsCut none opening rest :=
  ⟨⟨rfl, rfl⟩, rfl, ⟨rfl, rfl⟩, rfl, ⟨rfl, rfl⟩, rfl, ⟨rfl, rfl⟩, rfl, trivial⟩

/-- **A text with a cut has one inside a selection.** -/
theorem IsCut.enclosed {pieces : List Piece} (cut : IsCut none pieces []) : IsCut none (enclosed pieces) [] := by
  have brace (mark : Char) (quote : mark = '"' ∨ mark = '\'') : closes mark ['\x7d'] = false := by
    obtain rfl | rfl := quote <;> rfl
  have inside : IsCut (lastOr none (written opening)) pieces (written closing ++ []) := cut.line brace (by decide)
  exact isCut_append.mpr ⟨isCut_opening _, isCut_append.mpr ⟨inside, rfl, ⟨rfl, rfl⟩, trivial⟩⟩

/-- The tokens of a selection around pieces. -/
theorem placed_enclosed (pieces : List Piece) :
    ∃ position position', placed .start (Piece.enclosed pieces) =
      placed .start opening ++ (placed position pieces ++ [⟨.punctuation, ['\x7d'], position'⟩]) := by
  have whole : placed .start (Piece.enclosed pieces) = _ := placed_append .start opening (pieces ++ closing)
  rw [placed_append] at whole
  exact ⟨_, _, whole⟩

end QuerySignature
