import QuerySignature.Proofs.Query.Escapes
import QuerySignature.Proofs.Token.Layout
import QuerySignature.Proofs.Token.Quoted

/-!
# Proofs/Query/Literals — a quoted literal is split where the scanner closed it

The scanner closes a string at the first free mark, and the reader splits the literal at the last mark with an
annotation behind it.  The two agree because the marks in an annotation are `Muted`: none of them has an annotation
behind it, but for a protected one at the very end.  Such a mark can end a name, and where it is the mark of the string
the literal `Swallows` its own annotation.  `read_of_tokenize` says what a quoted token is read as in either case.
-/

namespace QuerySignature

namespace Literal

open Lexeme

variable {mark : Char} {text back suffix rest : Text} {language datatype : Option Text}

/-! ## What is no annotation -/

/-- An annotation starts with its mark, and there is none in front of the end only. -/
theorem annotation?_eq_none {c : Char} (tag : c ≠ '@') (type : c ≠ '^') (line : c ≠ '\n') :
    annotation? (c :: rest) = none := by
  have goes : isAtEnd (c :: rest) = false := by simp [isAtEnd, line]
  rw [ annotation?, goes]
  · rfl
  · exact fun _ same => tag (List.cons.inj same).1
  · exact fun _ _ same => type (List.cons.inj same).1

/-- What ends in a bracket has not ended. -/
theorem isAtEnd_bracket (front : Text) : isAtEnd (front ++ ['>']) = false := by
  rcases front with _ | ⟨c, _ | ⟨d, front⟩⟩ <;> simp [isAtEnd]

/-- The rest of an IRI is no annotation. -/
theorem annotation?_iri (inside : text.all isIriChar = true) : annotation? (text ++ ['>']) = none := by
  cases text with
  | nil => rfl
  | cons c text =>
    rw [List.all_cons, Bool.and_eq_true] at inside
    have type : c ≠ '^' := by
      rintro rfl
      exact absurd inside.1 (by decide)
    have line : c ≠ '\n' := by
      rintro rfl
      exact absurd inside.1 (by decide)
    by_cases tag : c = '@'
    · subst tag
      have reach : run isTagChar (text ++ ['>']) ≤ text.length := by
        rw [run_append]
        split
        · exact Nat.le_refl _
        · exact run_le _ _
      have goes : isAtEnd ((text ++ ['>']).drop (run isTagChar (text ++ ['>']))) = false := by
        rw [List.drop_append_of_le_length reach]
        exact isAtEnd_bracket _
      exact if_neg fun both => absurd (Bool.and_eq_true_iff.mp both).2 (ne_true_of_eq_false goes)
    · exact annotation?_eq_none tag type line

/-- The rest of a name is no annotation. -/
theorem annotation?_guarded (h : Guarded text) (some_ : text ≠ []) : annotation? text = none := by
  cases h with
  | nil => exact absurd rfl some_
  | bare free =>
    simp only [guardedMarks, List.mem_cons, List.not_mem_nil, or_false, not_or] at free
    exact annotation?_eq_none free.2.2.1 free.2.2.2.1 free.2.2.2.2.2.1
  | escaped => exact annotation?_eq_none (by decide) (by decide) (by decide)

/-- No mark stands in a tag. -/
theorem not_mem_tag {tag : Text} (quote : IsQuote mark) (tagged : languageTag (tag ++ rest) = some tag.length) :
    mark ∉ '@' :: tag := by
  have all := List.all_eq_true.mp (languageTag_isTagChar tagged).2
  intro member
  rcases List.mem_cons.mp member with same | member
  · rcases quote with rfl | rfl <;> cases same
  · have char := all mark member
    rcases quote with rfl | rfl <;> cases char

/-- **Only a name ends in a mark**, and only in a single one. -/
theorem datatype_of_getLast? (quote : IsQuote mark) (h : Follows rest suffix language datatype)
    (ends : suffix.getLast? = some mark) : mark = '\'' ∧ datatype.isSome = true := by
  cases h with
  | nothing => cases ends
  | language tagged => exact absurd (List.mem_of_getLast? ends) (not_mem_tag quote tagged)
  | iri =>
    rw [List.getLast?_concat] at ends
    rcases quote with rfl | rfl <;> cases ends
  | @name name _ named =>
    obtain ⟨front, whole⟩ := List.getLast?_eq_some_iff.mp ends
    match front, whole with
    | [], whole => cases whole
    | [_], whole =>
      obtain ⟨-, same⟩ := List.cons.inj whole
      rcases quote with rfl | rfl <;> cases same
    | _ :: _ :: front, whole =>
      obtain rfl := (List.cons.inj (List.cons.inj whole).2).2
      have guard := ((prefixedName_guarded named).split quote.mem_guardedMarks quote.ne_backslash).2.1
      rcases quote with rfl | rfl
      · cases guard
      · exact ⟨rfl, rfl⟩

/-! ## Muted marks -/

/-- **The marks in a text are muted**: no annotation follows one inside, and one at the end is protected. -/
structure Muted (mark : Char) (text : Text) : Prop where
  inside : ∀ front back, text = front ++ mark :: back → back ≠ [] → annotation? back = none
  last : ∀ front, text = front ++ [mark] → front.getLast? = some '\\'

namespace Muted

theorem of_not_mem (free : mark ∉ text) : Muted mark text where
  inside := fun front back whole => absurd (whole ▸ List.mem_append_right front (.head back)) free
  last := fun front whole => absurd (whole ▸ List.mem_append_right front (.head [])) free

/-- Another character in front changes nothing. -/
theorem cons {c : Char} (h : Muted mark text) (other : c ≠ mark) : Muted mark (c :: text) where
  inside := by
    rintro (_ | ⟨d, front⟩) back whole some_
    · exact absurd (List.cons.inj whole).1 other
    · exact h.inside front back (List.cons.inj whole).2 some_
  last := by
    rintro (_ | ⟨d, front⟩) whole
    · exact absurd (List.cons.inj whole).1 other
    · rw [List.getLast?_cons, h.last front (List.cons.inj whole).2]
      rfl

theorem of_iri (quote : IsQuote mark) (inside : text.all isIriChar = true) : Muted mark (text ++ ['>']) where
  inside := by
    intro front back whole some_
    obtain ⟨init, c, rfl⟩ := (List.eq_nil_or_concat' back).resolve_left some_
    rw [← List.cons_append, ← List.append_assoc] at whole
    obtain ⟨rfl, bracket⟩ := List.append_inj' whole rfl
    obtain rfl := (List.cons.inj bracket).1
    rw [List.all_append, List.all_cons, Bool.and_eq_true, Bool.and_eq_true] at inside
    exact annotation?_iri inside.2.2
  last := by
    intro front whole
    have bracket := List.append_inj_right' whole rfl
    rcases quote with rfl | rfl <;> cases bracket

theorem of_guarded (quote : IsQuote mark) (h : Guarded text) : Muted mark text where
  inside := by
    rintro front back rfl some_
    exact annotation?_guarded (h.split quote.mem_guardedMarks quote.ne_backslash).2.2 some_
  last := by
    rintro front rfl
    exact (h.split quote.mem_guardedMarks quote.ne_backslash).1

/-- **The marks of an annotation are muted.** -/
theorem of_follows (quote : IsQuote mark) (h : Follows rest suffix language datatype) : Muted mark suffix := by
  have caret : '^' ≠ mark := by rcases quote with rfl | rfl <;> decide
  have bracket : '<' ≠ mark := by rcases quote with rfl | rfl <;> decide
  cases h with
  | nothing => exact of_not_mem List.not_mem_nil
  | language tagged => exact of_not_mem (not_mem_tag quote tagged)
  | @iri name bracketed =>
    obtain ⟨name', rest', whole, length, inside⟩ := iri_eq_some bracketed
    obtain ⟨rfl, -⟩ := List.append_inj (List.cons.inj whole).2 (Nat.add_right_cancel length)
    exact (((of_iri quote inside).cons bracket).cons caret).cons caret
  | name _ named => exact ((of_guarded quote (prefixedName_guarded named)).cons caret).cons caret

/-- **No later place will do** where the marks are muted, unless one of them ends the text and one is enough. -/
theorem splitsLast {long : Bool} (h : Muted mark text) (plain : mark ≠ '\\')
    (clear : ¬(long = false ∧ text.getLast? = some mark)) : SplitsLast (marksOf mark long) text := by
  intro c front back same
  obtain ⟨init, behind, several⟩ := marksOf_again same
  by_cases ended : back = []
  · subst ended
    have guard := h.last init behind
    have three : long = true := by
      by_contra one
      exact clear ⟨by simpa using one, by rw [behind, List.getLast?_concat]⟩
    have twice := several three
    rw [List.getLast?_append, guard, Option.some_or] at twice
    exact absurd (Option.some.inj twice).symm plain
  · exact h.inside init back behind ended

end Muted

/-! ## Reading -/

/-- **What follows the string is an annotation**, and it names what the scanner matched. -/
theorem annotation?_follows (h : Follows rest suffix language datatype) : ∃ annotation,
    annotation? suffix = some annotation ∧ annotation.language? = language ∧ annotation.datatype? = datatype := by
  cases h with
  | nothing => exact ⟨.none, rfl, rfl, rfl⟩
  | @language tag tagged =>
    obtain ⟨some_, all⟩ := languageTag_isTagChar tagged
    exact ⟨.language tag, annotation?_tag some_ all, rfl, rfl⟩
  | @iri name bracketed =>
    refine ⟨.datatype ('<' :: name ++ ['>']), rfl, rfl, ?_⟩
    simp [ Annotation.datatype?, unwrapped]
  | @name name _ named =>
    have guarded := prefixedName_guarded named
    obtain ⟨c, name, rfl⟩ := List.exists_cons_of_length_pos (prefixedName_extent named).1
    have bracket : c ≠ '<' := by
      rintro rfl
      cases guarded with
      | bare free => exact free (by decide)
    refine ⟨.datatype (c :: name), rfl, rfl, ?_⟩
    simp [ Annotation.datatype?, bracket]

end Literal

namespace Lexeme.Quoted

open Literal

variable {parts : Quoted} {rest : Text}

/-- **The literal swallows its annotation**: one mark closes the string, and the annotation ends in it. -/
def Swallows (parts : Quoted) : Prop :=
  parts.long = false ∧ parts.suffix.getLast? = some parts.mark

/-- A string in one mark does not start like one in three. -/
theorem Matches.short (h : parts.Matches rest) (one : parts.long = false) :
    ¬[parts.mark, parts.mark] <+: parts.body ++ parts.mark :: parts.suffix := by
  rintro ⟨behind, same⟩
  cases body : parts.body with
  | nil =>
    rw [body] at same
    exact h.follows.head? h.quote (by rw [← (List.cons.inj same).2]; rfl)
  | cons c others =>
    rw [body] at same
    exact h.body_head one (by rw [body, ← (List.cons.inj same).1]; rfl)

/-- **The reader splits a literal where the scanner closed it.** -/
theorem Matches.split? (h : parts.Matches rest) (clear : ¬parts.Swallows) : ∃ annotation,
    Literal.split? parts.written = some (parts.body, annotation) ∧
      annotation.language? = parts.language ∧ annotation.datatype? = parts.datatype := by
  obtain ⟨suffix, found, named⟩ := annotation?_follows h.follows
  refine ⟨suffix, ?_, named⟩
  have last : SplitsLast (marksOf parts.mark parts.long) parts.suffix :=
    (Muted.of_follows h.quote h.follows).splitsLast h.quote.ne_backslash clear
  rw [written_eq]
  exact split?_marks h.quote h.short found last

/-- **A literal that swallows its annotation** is split at its end. -/
theorem Matches.split?_swallows (h : parts.Matches rest) (swallows : parts.Swallows) :
    Literal.split? parts.written = some (parts.body ++ parts.mark :: parts.suffix.dropLast, .none) := by
  obtain ⟨one, ends⟩ := swallows
  obtain ⟨init, whole⟩ := List.getLast?_eq_some_iff.mp ends
  have short := h.short one
  have parted : parts.body ++ parts.mark :: parts.suffix = parts.body ++ parts.mark :: init ++ parts.mark :: [] := by
    simp [whole]
  rw [parted] at short
  have written : parts.written = marksOf parts.mark false ++
      (parts.body ++ parts.mark :: init ++ marksOf parts.mark false ++ []) := by
    simp [written_eq, one, whole, marksOf]
  rw [written, whole, List.dropLast_concat]
  exact split?_marks h.quote (fun _ => short) rfl (splitsLast_of_not_mem List.not_mem_nil)

/-- **A literal that keeps its annotation** has the value of the body, if that has one, and what the annotation
names. -/
theorem Matches.read (h : parts.Matches rest) (sign : Text) (clear : ¬parts.Swallows) :
    Literal.read sign parts.written =
      (decoded parts.body).map fun codes => ⟨parts.written, codes, parts.language, parts.datatype⟩ := by
  obtain ⟨suffix, split, language, datatype⟩ := h.split? clear
  rw [read_of_split? sign split, language, datatype]

/-- **A literal that swallows its annotation** has it in its value. -/
theorem Matches.read_swallows (h : parts.Matches rest) (sign : Text) (swallows : parts.Swallows) :
    Literal.read sign parts.written = (decoded (parts.body ++ parts.mark :: parts.suffix.dropLast)).map fun codes =>
      ⟨parts.written, codes, none, none⟩ :=
  read_of_split? sign (h.split?_swallows swallows)

end Lexeme.Quoted

/-! ## Tokens -/

open Piece Lexeme Literal

/-- **A token that starts with a mark is a quoted literal**: it has its parts, matched where it stands in the text. -/
theorem matches_of_mem {pieces : List Piece} {token : Token} (cut : IsCut none pieces [])
    (member : token ∈ placed .start pieces) {mark : Char} (quote : IsQuote mark)
    (first : token.text.head? = some mark) :
    token.kind = .literal ∧ ∃ (parts : Quoted) (front rest : Text), token.text = parts.written ∧ parts.Matches rest ∧
      written pieces = front ++ token.text ++ rest ∧ token.position = Position.start.after front := by
  obtain ⟨front, kind, text, back, rfl, rfl⟩ := mem_placed member
  obtain ⟨-, stands, -⟩ := isCut_append.mp cut
  obtain ⟨chars, rfl⟩ := List.head?_eq_some_iff.mp first
  have found := stands.2
  simp only [Piece.text, List.cons_append, List.append_nil] at found
  rw [Scan.lexeme?_quote quote] at found
  obtain ⟨n, quoted, same⟩ := Option.map_eq_some_iff.mp found
  obtain ⟨literal, length⟩ := Prod.mk.inj same
  obtain ⟨parts, rest, whole, length', matched⟩ := quotedLiteral_matches quoted
  rw [← List.cons_append] at whole
  obtain ⟨same', rfl⟩ := List.append_inj whole (length.symm.trans length')
  refine ⟨(Scan.Class.token.inj literal).symm, parts, written front, written back, same', matched, ?_, rfl⟩
  rw [written_append, written_cons, Piece.text, List.append_assoc]

/-- **A quoted token is read as the scanner matched it**: if its escapes are well formed it has the value of what stands
between its marks, and the language or the datatype behind them.  Only where it swallows its annotation, which names a
datatype, has it neither, and its value goes on up to the last mark. -/
theorem read_of_tokenize {limits : Limits} {text : Text} {tokens : List Token} {token : Token} {mark : Char}
    (h : tokenize limits text = .ok tokens) (member : token ∈ tokens) (quote : IsQuote mark)
    (first : token.text.head? = some mark) (sign : Text) :
    token.kind = .literal ∧ ∃ (parts : Quoted) (front rest : Text), token.text = parts.written ∧ parts.Matches rest ∧
      text = front ++ token.text ++ rest ∧ token.position = Position.start.after front ∧
      (WellEscaped parts.body → ¬parts.Swallows → ∃ codes, decoded parts.body = .ok codes ∧
        read sign token.text = .ok ⟨token.text, codes, parts.language, parts.datatype⟩) ∧
      (parts.Swallows → parts.mark = '\'' ∧ parts.datatype.isSome = true ∧
        read sign token.text = (decoded (parts.body ++ parts.mark :: parts.suffix.dropLast)).map fun codes =>
          ⟨token.text, codes, none, none⟩) := by
  obtain ⟨-, pieces, cut, rfl, -, rfl⟩ := tokenize_eq_ok.mp h
  rcases List.mem_append.mp member with member | ended
  · obtain ⟨literal, parts, front, rest, same, matched, stands, place⟩ := matches_of_mem cut member quote first
    refine ⟨literal, parts, front, rest, same, matched, stands, place, fun escaped clear => ?_, fun swallows => ?_⟩
    · obtain ⟨codes, value⟩ := decoded_ok_iff.mpr escaped
      refine ⟨codes, value, ?_⟩
      rw [same, matched.read sign clear, value]
      rfl
    · obtain ⟨single, named⟩ := datatype_of_getLast? matched.quote matched.follows swallows.2
      exact ⟨single, named, by rw [same, matched.read_swallows sign swallows]⟩
  · obtain rfl := List.mem_singleton.mp ended
    cases first

/-- A literal with a tag behind its string is well escaped and swallows nothing, so it has the value and the language
that were matched. -/
theorem read_of_tokenize_tagged :
    tokenize .standard "'a'@en".toList = .ok [⟨.literal, "'a'@en".toList, .start⟩, ⟨.eof, [], ⟨1, 7, 6⟩⟩] ∧
      ∃ (parts : Quoted) (rest : Text), "'a'@en".toList = parts.written ∧ parts.Matches rest ∧
        WellEscaped parts.body ∧ ¬parts.Swallows ∧ decoded parts.body = .ok ['a'.toNat] ∧
        parts.language = some "en".toList ∧ parts.datatype = none ∧
        read [] "'a'@en".toList = .ok ⟨"'a'@en".toList, ['a'.toNat], some "en".toList, none⟩ := by
  have tokens : tokenize .standard "'a'@en".toList =
      .ok [⟨.literal, "'a'@en".toList, .start⟩, ⟨.eof, [], ⟨1, 7, 6⟩⟩] := rfl
  have found : read [] "'a'@en".toList = .ok ⟨"'a'@en".toList, ['a'.toNat], some "en".toList, none⟩ := rfl
  obtain ⟨-, parts, front, rest, same, matched, -, -, value, swallowed⟩ :=
    read_of_tokenize tokens (.head _) (.inr rfl) rfl []
  have escaped : WellEscaped parts.body := by
    refine wellEscaped_of_not_mem fun member => ?_
    have inside : '\\' ∈ parts.written := by
      rw [Quoted.written_eq]
      exact List.mem_append_right _ (List.mem_append_left _ (List.mem_append_left _ member))
    exact absurd (same ▸ inside) (by decide)
  -- a literal that swallows its annotation has no language
  have clear : ¬parts.Swallows := by
    intro swallows
    have lost := found.symm.trans (swallowed swallows).2.2
    cases body : decoded (parts.body ++ parts.mark :: parts.suffix.dropLast) with
    | error fault =>
      rw [body] at lost
      cases lost
    | ok codes =>
      rw [body] at lost
      cases lost
  obtain ⟨codes, decoded, is⟩ := value escaped clear
  obtain ⟨-, rfl, language, datatype⟩ := Literal.mk.inj (Except.ok.inj (found.symm.trans is))
  exact ⟨tokens, parts, rest, same, matched, escaped, clear, decoded, language.symm, datatype.symm, found⟩

/-- A literal whose datatype ends in the mark of its string. -/
def Lexeme.Quoted.swallowing : Quoted :=
  ⟨'\'', false, ['a'], "^^p:b\\'".toList, none, some "p:b\\'".toList⟩

/-- **Not every quoted token is read as it was matched**: a datatype that ends in the mark of the string is lost. -/
theorem not_read_as_matched :
    ¬∀ (limits : Limits) (text : Text) (tokens : List Token) (token : Token) (parts : Quoted) (front rest : Text),
      tokenize limits text = .ok tokens → token ∈ tokens → token.kind = .literal → token.text = parts.written →
      parts.Matches rest → text = front ++ token.text ++ rest → WellEscaped parts.body →
      ∃ codes, decoded parts.body = .ok codes ∧
        read [] token.text = .ok ⟨token.text, codes, parts.language, parts.datatype⟩ := by
  intro always
  have matched : Quoted.swallowing.Matches " \x7d".toList :=
    ⟨.inr rfl, rfl, rfl, .name rfl rfl⟩
  obtain ⟨codes, -, found⟩ := always .standard "ASK \x7b ?s ?p 'a'^^p:b\\' \x7d".toList _
    ⟨.literal, Quoted.swallowing.written, ⟨1, 13, 12⟩⟩ Quoted.swallowing "ASK \x7b ?s ?p ".toList _
    rfl (.tail _ (.tail _ (.tail _ (.tail _ (.head _))))) rfl rfl matched rfl (.plain (by decide) .nil)
  have lost : read [] Quoted.swallowing.written =
      .ok ⟨Quoted.swallowing.written, "a'^^p:b\\".toList.map Char.toNat, none, none⟩ := rfl
  cases lost.symm.trans found

end QuerySignature
