/-!
# Text/Basic — texts and character classes

A text is a list of characters, so that every length, offset and column counts characters; a
surrogate code point is no character.  A character class of the Unicode standard is a list of ranges
of code points (`Ranges`).  The module also holds the decimal writing of integers, the cutting of a
text at separators and the joining of parts, and the test for an inner piece of a text.
-/

namespace QuerySignature

/-- **A text** is a list of characters. -/
abbrev Text := List Char

namespace Text

/-- A range of code points, both ends included. -/
abbrev Range := Nat × Nat

/-- The first code point of a range. -/
abbrev Range.first (range : Range) : Nat := range.1

/-- The character lies in the range. -/
def Range.has (range : Range) (c : Char) : Bool :=
  range.1 ≤ c.toNat && c.toNat ≤ range.2

/-- **A class of characters**, as ranges of code points. -/
abbrev Ranges := List Range

/-- The character lies in one of the ranges. -/
def Ranges.has (ranges : Ranges) (c : Char) : Bool :=
  ranges.any (·.has c)

/-- The decimal writing of a natural number. -/
def ofNat (n : Nat) : Text :=
  Nat.toDigits 10 n

/-- The decimal writing of an integer, with a minus sign below zero. -/
def ofInt : Int → Text
  | .ofNat n => ofNat n
  | .negSucc n => '-' :: ofNat (n + 1)

/-- The parts one after the other, with the separator between them. -/
def joined (separator : Text) (parts : List Text) : Text :=
  List.intercalate separator parts

/-- **The parts of a text between separators**, the empty ones among them. -/
def separated (isSeparator : Char → Bool) (text : Text) : List Text :=
  text.foldr (fun c found =>
    match found with
    | part :: rest => if isSeparator c then [] :: part :: rest else (c :: part) :: rest
    | [] => [[c]]) [[]]

/-- **An inner piece**: the text holds the piece as consecutive characters. -/
def hasPiece (piece : Text) : Text → Bool
  | [] => piece.isEmpty
  | c :: rest => piece.isPrefixOf (c :: rest) || hasPiece piece rest

@[simp]
theorem joined_singleton (separator part : Text) : joined separator [part] = part := by
  simp [joined, List.intercalate]

theorem joined_cons_cons (separator first second : Text) (rest : List Text) :
    joined separator (first :: second :: rest) = first ++ separator ++ joined separator (second :: rest) := by
  simp [joined, List.intercalate]

/-- Texts that are joined in two parts. -/
theorem joined_append (separator : Text) {first second : List Text} (h : first ≠ []) (h' : second ≠ []) :
    joined separator (first ++ second) = joined separator first ++ separator ++ joined separator second := by
  induction first with
  | nil => exact absurd rfl h
  | cons text first ih =>
    cases first with
    | nil =>
      rw [List.singleton_append, joined_singleton]
      exact (List.intercalate_cons_of_ne_nil h').trans (by rw [joined])
    | cons next first =>
      rw [List.cons_append, List.cons_append, joined_cons_cons, joined_cons_cons, ← List.cons_append,
        ih (List.cons_ne_nil _ _)]
      simp only [List.append_assoc]

end Text

end QuerySignature
