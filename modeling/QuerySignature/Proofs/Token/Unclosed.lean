import QuerySignature.Proofs.Token.Exchange

/-!
# Proofs/Token/Unclosed — three marks that open no string

Three marks open a long string if three more of them follow anywhere behind; if none follow, the first two
are an empty string.  So a text behind them may only be exchanged for one in which no such string ends.  A
character that is no mark and no backslash cuts the search in two: a string that does not end in front of
it goes on behind it as if it had started there (`longString_exchange_open`).
-/

namespace QuerySignature

namespace Lexeme

variable {mark c d : Char} {s x y : Text} {taken : Nat}

/-- **A long string that is open at the start of the text ends in it.** -/
def closes (mark : Char) (text : Text) : Bool :=
  (longString mark text 0).isSome

theorem longString_shift (mark : Char) (s : Text) (taken more : Nat) :
    longString mark s (taken + more) = (longString mark s taken).map (· + more) := by
  fun_induction longString mark s taken with
  | case1 c rest taken ih =>
    rw [longString_escape, ← ih, show taken + more + 2 = taken + 2 + more by omega]
  | case2 c rest taken escape closing =>
    have plain : c ≠ '\\' := by
      rintro rfl
      cases rest with
      | nil => cases closing.2
      | cons d rest => exact escape d rest rfl rfl
    rw [longString_plain plain, if_pos closing, Option.map_some, show taken + more + 3 = taken + 3 + more by omega]
  | case3 rest taken escape _ =>
    cases rest with
    | nil => exact longString_backslash mark _
    | cons d rest => exact absurd rfl (escape d rest rfl)
  | case4 c rest taken _ open_ plain ih =>
    rw [longString_plain plain, if_neg open_, ← ih, show taken + more + 1 = taken + 1 + more by omega]
  | case5 => rfl

/-- Whether a long string ends does not depend on how much of it has been passed. -/
theorem longString_eq_none : longString mark s taken = none ↔ closes mark s = false := by
  rw [← Nat.zero_add taken, longString_shift, Option.map_eq_none_iff, closes, Option.isSome_eq_false_iff,
    Option.isNone_iff_eq_none]

theorem isPrefixOf_two (h : d ≠ mark) (rest y : Text) :
    [mark, mark].isPrefixOf (rest ++ d :: y) = [mark, mark].isPrefixOf rest := by
  have other : (mark == d) = false := beq_false_of_ne (Ne.symm h)
  rcases rest with _ | ⟨a, _ | ⟨b, rest⟩⟩ <;> simp [List.isPrefixOf, other]

/-- **What stands behind a plain character may be exchanged** for a text in which no long string ends. -/
theorem longString_exchange_open (mark_ : c ≠ mark) (plain : c ≠ '\\') (mark_' : d ≠ mark) (plain' : d ≠ '\\')
    (h : longString mark (s ++ c :: x) taken = none) :
    closes mark x = false ∧ (closes mark y = false → longString mark (s ++ d :: y) taken = none) := by
  fun_induction longString mark s taken with
  | case1 taken e rest ih =>
    simp only [List.cons_append, longString_escape] at h ⊢
    exact ih h
  | case2 e rest taken escape closing =>
    have other : e ≠ '\\' := by
      rintro rfl
      cases rest with
      | nil => cases closing.2
      | cons d rest => exact escape d rest rfl rfl
    rw [List.cons_append, longString_plain other, if_pos ⟨closing.1, isPrefixOf_two mark_ rest x ▸ closing.2⟩] at h
    cases h
  | case3 rest taken escape _ =>
    cases rest with
    | cons e rest => exact absurd rfl (escape e rest rfl)
    | nil =>
      simp only [List.singleton_append, longString_escape] at h ⊢
      exact ⟨longString_eq_none.mp h, longString_eq_none.mpr⟩
  | case4 e rest taken escape open_ other ih =>
    rw [List.cons_append, longString_plain other, if_neg (by rwa [isPrefixOf_two mark_])] at h
    rw [List.cons_append, longString_plain other, if_neg (by rwa [isPrefixOf_two mark_'])]
    exact ih h
  | case5 taken =>
    rw [List.nil_append, longString_plain plain, if_neg fun both => mark_ both.1] at h
    rw [List.nil_append, longString_plain plain', if_neg fun both => mark_' both.1]
    exact ⟨longString_eq_none.mp h, longString_eq_none.mpr⟩

/-- Behind a plain character a text closes nothing if the whole closes nothing. -/
theorem closes_behind (mark_ : c ≠ mark) (plain : c ≠ '\\') (h : closes mark (s ++ c :: x) = false) :
    closes mark x = false :=
  have open_ : longString mark (s ++ c :: x) 0 = none := longString_eq_none.mpr h
  (longString_exchange_open (y := []) mark_ plain mark_ plain open_).1

/-- Two texts that close nothing close nothing together, if the first ends in a plain character. -/
theorem closes_append (mark_ : c ≠ mark) (plain : c ≠ '\\') (h : closes mark (s ++ [c]) = false)
    (h' : closes mark y = false) : closes mark (s ++ c :: y) = false :=
  have open_ : longString mark (s ++ [c]) 0 = none := longString_eq_none.mpr h
  longString_eq_none.mp ((longString_exchange_open mark_ plain mark_ plain open_).2 h')

/-- A text that closes nothing closes nothing with a plain character and another such text behind it. -/
theorem longString_append_plain (mark_ : c ≠ mark) (plain : c ≠ '\\') (h : longString mark s taken = none)
    (h' : closes mark y = false) : longString mark (s ++ c :: y) taken = none := by
  fun_induction longString mark s taken with
  | case1 taken e rest ih =>
    simp only [List.cons_append, longString_escape] at h ⊢
    exact ih h
  | case2 => cases h
  | case3 rest taken escape _ =>
    cases rest with
    | cons e rest => exact absurd rfl (escape e rest rfl)
    | nil =>
      rw [List.singleton_append, longString_escape]
      exact longString_eq_none.mpr h'
  | case4 e rest taken escape open_ other ih =>
    rw [List.cons_append, longString_plain other, if_neg (by rwa [isPrefixOf_two mark_])]
    exact ih h
  | case5 taken =>
    rw [List.nil_append, longString_plain plain, if_neg fun both => mark_ both.1]
    exact longString_eq_none.mpr h'

/-- A plain character closes nothing. -/
theorem closes_cons (mark_ : c ≠ mark) (plain : c ≠ '\\') (x : Text) : closes mark (c :: x) = closes mark x := by
  have passed : longString mark (c :: x) 0 = longString mark x (0 + 1) := by
    rw [longString_plain plain, if_neg fun both => mark_ both.1]
  rw [closes, passed, longString_shift, Option.isSome_map]
  rfl

/-- **Texts that start with plain characters may be exchanged** behind any text, if the second closes nothing where
the first closes nothing. -/
theorem closes_exchange (mark_ : c ≠ mark) (plain : c ≠ '\\') (mark_' : d ≠ mark) (plain' : d ≠ '\\')
    (imp : closes mark (c :: x) = false → closes mark (d :: y) = false) (h : closes mark (s ++ c :: x) = false) :
    closes mark (s ++ d :: y) = false := by
  have open_ : longString mark (s ++ c :: x) 0 = none := longString_eq_none.mpr h
  obtain ⟨first, further⟩ := longString_exchange_open (y := y) mark_ plain mark_' plain' open_
  rw [closes_cons mark_ plain, closes_cons mark_' plain'] at imp
  exact longString_eq_none.mp (further (imp first))

/-- Three marks that open no string start with an empty one. -/
theorem string_of_open (quote : mark = '"' ∨ mark = '\'') (h : longString mark x 3 = none) :
    string (mark :: mark :: mark :: x) = some 2 := by
  rcases quote with rfl | rfl
  · have long : stringIn '"' true ('"' :: '"' :: '"' :: x) = none := h
    have other : stringIn '\'' true ('"' :: '"' :: '"' :: x) = none := stringIn_of_ne (by decide) _ _
    rw [string, long, other]
    rfl
  · have long : stringIn '\'' true ('\'' :: '\'' :: '\'' :: x) = none := h
    have other (l : Bool) : stringIn '"' l ('\'' :: '\'' :: '\'' :: x) = none := stringIn_of_ne (by decide) _ _
    rw [string, long, other, other]
    rfl

end Lexeme

/-- **Three marks that open no string dangle**: a token is the empty string of two of them, and the third stands
behind it. -/
def Token.Dangles (text : Text) (mark : Char) (token : Token) : Prop :=
  token.text = [mark, mark] ∧ text[token.stop.toNat]? = some mark

open Lexeme in
/-- A piece in front of which three marks open no string is the empty string. -/
theorem Piece.Stands.eq_of_open {before : Option Char} {piece : Piece} {mark : Char} {z rest : Text}
    (stands : piece.Stands before z) (quote : mark = '"' ∨ mark = '\'')
    (whole : piece.text ++ z = mark :: mark :: mark :: rest) (h : longString mark rest 3 = none) :
    piece = .word .literal [mark, mark] := by
  have lexeme : Scan.lexeme? before (mark :: mark :: mark :: rest) = some (.token .literal, 2) := by
    have plain : annotated (mark :: rest) = none := by
      rcases quote with rfl | rfl <;> exact annotated_of_ne (by decide) (by decide) _
    rw [Scan.lexeme?_quote quote, quotedLiteral, string_of_open quote h]
    change some (Scan.Class.token .literal, 2 + (annotated (mark :: rest)).getD 0) = _
    rw [plain]
    rfl
  have two {text : Text} (whole : text ++ z = mark :: mark :: mark :: rest) (length : text.length = 2) :
      text = [mark, mark] := by
    obtain ⟨a, b, rfl⟩ := List.length_eq_two.mp length
    simp only [List.cons_append, List.nil_append, List.cons.injEq] at whole
    rw [whole.1, whole.2.1]
  cases piece with
  | blank c =>
    obtain rfl : c = mark := (List.cons.inj whole).1
    have dark : [c].all Text.isBlank = true := stands
    rcases quote with rfl | rfl <;> exact absurd dark (by decide)
  | comment text =>
    have found := stands.2
    rw [whole, lexeme] at found
    cases found
  | word kind text =>
    have found := stands.2
    rw [whole, lexeme] at found
    obtain ⟨same, length⟩ := Prod.mk.inj (Option.some.inj found)
    obtain rfl := Scan.Class.token.inj same
    exact congrArg _ (two whole length.symm)

end QuerySignature
