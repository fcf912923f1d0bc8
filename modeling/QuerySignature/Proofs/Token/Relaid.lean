import QuerySignature.Proofs.Token.Place
import QuerySignature.Proofs.Token.Spacing

/-!
# Proofs/Token/Relaid — a text laid out anew

A text is laid out anew where its runs of white space outside words and comments are replaced by others, and its
words and comments stay (`Piece.Relaid`).  What was a cut stays one (`IsCut.relaid`): each word still stands in front
of white space, an IRI that did not run to the end still does not, and three marks that opened no string still open
none, for no run of white space ends an escape or a string.
-/

namespace QuerySignature

open Lexeme

namespace Piece

/-- The characters of a run of white space, piece by piece. -/
abbrev blanks (run : Text) : List Piece := run.map blank

/-- **The pieces of a text laid out anew**: the same words and comments, and spaces, tabs and line ends where any white
space was; what follows a comment starts with a line feed. -/
inductive Relaid : List Piece → List Piece → Prop where
  | nil : Relaid [] []
  | word (kind : Token.Kind) (text : Text) {pieces pieces' : List Piece} : Relaid pieces pieces' →
      Relaid (word kind text :: pieces) (word kind text :: pieces')
  | comment (text : Text) {pieces pieces' : List Piece} : (∀ c rest, pieces' = blank c :: rest → c = '\n') →
      Relaid pieces pieces' → Relaid (comment text :: pieces) (comment text :: pieces')
  | blanks {run run' : Text} {pieces pieces' : List Piece} : run ≠ [] → run' ≠ [] →
      run'.all Text.isPlainBlank = true → Relaid pieces pieces' → Relaid (blanks run ++ pieces) (blanks run' ++ pieces')

/-- The pieces end, or go on with white space. -/
def Pauses (pieces : List Piece) : Prop :=
  pieces.head?.all (·.class?.isNone) = true

theorem written_blanks (run : Text) : written (blanks run) = run := by
  induction run with
  | nil => rfl
  | cons c run ih => rw [blanks, List.map_cons, written_cons, ih]; rfl

theorem pauses_blanks {run : Text} (some_ : run ≠ []) (pieces : List Piece) : Pauses (blanks run ++ pieces) := by
  obtain ⟨c, run, rfl⟩ := List.exists_cons_of_ne_nil some_
  rfl

end Piece

open Piece

variable {before before' : Option Char} {pieces pieces' : List Piece} {run rest : Text}

/-! ## Runs of white space -/

theorem isCut_blanks (blank : run.all Text.isBlank = true) : IsCut before (blanks run) rest := by
  induction run generalizing before with
  | nil => trivial
  | cons c run ih =>
    rw [List.all_cons, Bool.and_eq_true] at blank
    refine ⟨?_, ih blank.2⟩
    change [c].all Text.isBlank = true
    rw [List.all_cons, blank.1]
    rfl

theorem all_isBlank_of_isCut (cut : IsCut before (blanks run) rest) : run.all Text.isBlank = true := by
  induction run generalizing before with
  | nil => rfl
  | cons c run ih =>
    obtain ⟨stands, cut⟩ := cut
    have here : [c].all Text.isBlank = true := stands
    rw [List.all_cons, List.all_nil, Bool.and_true] at here
    rw [List.all_cons, here, ih cut]
    rfl

/-- White space in front joins no word. -/
theorem any_joinsWord_lastOr (some_ : run ≠ []) (blank : run.all Text.isBlank = true) :
    (lastOr before run).any joinsWord = false := by
  have last := List.all_eq_true.mp blank _ (List.getLast_mem some_)
  rw [lastOr, List.getLast?_eq_some_getLast some_]
  exact Text.not_joinsWord_of_blank last

/-- White space is no quotation mark and protects none. -/
theorem plain_of_blank {c mark : Char} (quote : mark = '"' ∨ mark = '\'') (blank : Text.isBlank c = true) :
    c ≠ mark ∧ c ≠ '\\' := by
  refine ⟨Text.ne_of_blank blank ?_, Text.ne_of_blank blank (by decide)⟩
  obtain rfl | rfl := quote <;> decide

/-- White space ends no long string. -/
theorem closes_blanks {mark : Char} (quote : mark = '"' ∨ mark = '\'') (blank : run.all Text.isBlank = true)
    (rest : Text) : closes mark (run ++ rest) = closes mark rest := by
  induction run with
  | nil => rfl
  | cons c run ih =>
    rw [List.all_cons, Bool.and_eq_true] at blank
    obtain ⟨other, backslash⟩ := plain_of_blank quote blank.1
    rw [List.cons_append, closes_cons other backslash, ih blank.2]

/-! ## How pieces start -/

/-- A word does not start like a comment. -/
theorem Piece.Stands.head?_ne {kind : Token.Kind} {text : Text} (h : (Piece.word kind text).Stands before rest) :
    text.head? ≠ some '#' := by
  obtain ⟨c, body, rfl⟩ := List.exists_cons_of_length_pos h.length_pos
  intro same
  obtain rfl := Option.some.inj same
  have found : Scan.lexeme? before ('#' :: (body ++ rest)) = some (.token kind, ('#' :: body).length) := h.2
  have comment : Scan.lexeme? before ('#' :: (body ++ rest)) =
      some (.comment, 1 + run (· != '\n') (body ++ rest)) := rfl
  rw [comment] at found
  cases found

/-- Behind a comment the text ends, or a line feed follows. -/
theorem Piece.Stands.line {text : Text} (h : (Piece.comment text).Stands before rest) :
    rest.head?.all (· == '\n') = true := by
  obtain ⟨c, body, rfl⟩ := List.exists_cons_of_length_pos h.length_pos
  have found := Scan.lexeme?_comment h.2
  rw [Piece.text, List.cons_append, comment_cons] at found
  split at found
  · have length := Option.some.inj found
    rw [List.length_cons, Nat.add_comm, Nat.succ_inj, Lexeme.run_eq_length] at length
    cases rest with
    | nil => rfl
    | cons d rest => simpa using length.2 d rfl
  · cases found

/-- Words and comments do not start with white space. -/
theorem Piece.Stands.dark {piece : Piece} (h : piece.Stands before rest) (solid : piece.class? ≠ none) :
    ∃ c text, piece.text = c :: text ∧ Text.isBlank c = false := by
  obtain ⟨c, text, whole⟩ := List.exists_cons_of_length_pos h.length_pos
  unfold Stands at h
  cases kind : piece.class? with
  | none => exact absurd kind solid
  | some found =>
    rw [kind] at h
    have head := h.1
    rw [whole] at head
    exact ⟨c, text, whole, head⟩

namespace Piece.Relaid

theorem all_isBlank {run' : Text} (plain : run'.all Text.isPlainBlank = true) : run'.all Text.isBlank = true :=
  List.all_eq_true.mpr fun c member => Text.isBlank_of_isPlainBlank (List.all_eq_true.mp plain c member)

/-! ## What both texts have in common -/

/-- The words and comments up to the next white space are the same. -/
theorem split (h : Relaid pieces pieces') :
    ∃ solid tail tail', pieces = solid ++ tail ∧ pieces' = solid ++ tail' ∧ Relaid tail tail' ∧ Pauses tail := by
  induction h with
  | nil => exact ⟨[], [], [], rfl, rfl, .nil, rfl⟩
  | word kind text _ ih =>
    obtain ⟨solid, tail, tail', rfl, rfl, relaid, pauses⟩ := ih
    exact ⟨.word kind text :: solid, tail, tail', rfl, rfl, relaid, pauses⟩
  | comment text _ _ ih =>
    obtain ⟨solid, tail, tail', rfl, rfl, relaid, pauses⟩ := ih
    exact ⟨.comment text :: solid, tail, tail', rfl, rfl, relaid, pauses⟩
  | blanks some_ some_' plain relaid =>
    exact ⟨[], _, _, rfl, rfl, .blanks some_ some_' plain relaid, pauses_blanks some_ _⟩

/-- The tokens are the same, but for their places. -/
theorem unplaced (h : Relaid pieces pieces') (position position' : Position) :
    (placed position' pieces').map Token.unplaced = (placed position pieces).map Token.unplaced := by
  have skip (run : Text) (pieces : List Piece) (position : Position) :
      ∃ position', placed position (Piece.blanks run ++ pieces) = placed position' pieces := by
    induction run generalizing position with
    | nil => exact ⟨position, rfl⟩
    | cons c run ih => exact ih (position.next c)
  induction h generalizing position position' with
  | nil => rfl
  | word kind text _ ih => exact congrArg (⟨kind, text, .start⟩ :: ·) (ih _ _)
  | comment text _ _ ih => exact ih _ _
  | @blanks run run' pieces pieces' _ _ _ _ ih =>
    obtain ⟨_, first⟩ := skip run pieces position
    obtain ⟨_, second⟩ := skip run' pieces' position'
    rw [first, second]
    exact ih _ _

/-- Where nothing but white space follows now, nothing else followed before. -/
theorem ending (h : Relaid pieces pieces') (cut : IsCut before pieces rest)
    (blank : (written pieces').all Text.isBlank = true) : (written pieces).all Text.isBlank = true := by
  have light {piece : Piece} {before : Option Char} {z : Text} (stands : piece.Stands before z)
      (solid : piece.class? ≠ none) : piece.text.all Text.isBlank = false := by
    obtain ⟨c, text, whole, dark⟩ := stands.dark solid
    rw [whole, List.all_cons, dark, Bool.false_and]
  induction h generalizing before with
  | nil => rfl
  | word kind text _ ih =>
    rw [written_cons, List.all_append, light cut.1 (fun none_ => nomatch none_), Bool.false_and] at blank
    cases blank
  | comment text _ _ ih =>
    rw [written_cons, List.all_append, light cut.1 (fun none_ => nomatch none_), Bool.false_and] at blank
    cases blank
  | blanks _ _ _ _ ih =>
    obtain ⟨dark, cut⟩ := isCut_append.mp cut
    rw [written_append, List.all_append, Bool.and_eq_true] at blank ⊢
    rw [written_blanks]
    exact ⟨all_isBlank_of_isCut dark, ih cut blank.2⟩

/-- A long string that was open stays open. -/
theorem staysOpen (h : Relaid pieces pieces') (cut : IsCut before pieces rest) {mark : Char}
    (quote : mark = '"' ∨ mark = '\'') (s : Text) (open_ : closes mark (s ++ written pieces) = false) :
    closes mark (s ++ written pieces') = false := by
  induction h generalizing before s with
  | nil => exact open_
  | word kind text _ ih =>
    rw [written_cons, ← List.append_assoc] at open_ ⊢
    exact ih cut.2 _ open_
  | comment text _ _ ih =>
    rw [written_cons, ← List.append_assoc] at open_ ⊢
    exact ih cut.2 _ open_
  | @blanks run run' pieces pieces' some_ some_' plain _ ih =>
    obtain ⟨dark, cut⟩ := isCut_append.mp cut
    have dark := all_isBlank_of_isCut dark
    have dark' := all_isBlank plain
    obtain ⟨c, run, rfl⟩ := List.exists_cons_of_ne_nil some_
    obtain ⟨c', run', rfl⟩ := List.exists_cons_of_ne_nil some_'
    have first : Text.isBlank c = true ∧ run.all Text.isBlank = true := (Bool.and_eq_true _ _).mp dark
    have first' : Text.isBlank c' = true ∧ run'.all Text.isBlank = true := (Bool.and_eq_true _ _).mp dark'
    rw [written_append, written_blanks, List.cons_append] at open_ ⊢
    obtain ⟨other, backslash⟩ := plain_of_blank quote first.1
    obtain ⟨other', backslash'⟩ := plain_of_blank quote first'.1
    refine closes_exchange other backslash other' backslash' ?_ open_
    rw [closes_cons other backslash, closes_cons other' backslash', closes_blanks quote first.2,
      closes_blanks quote first'.2]
    exact ih cut []

/-- **What follows a word in both texts** is spacing. -/
theorem spacing (h : Relaid pieces pieces') (pauses : Pauses pieces) (cut : IsCut before pieces rest) :
    Spacing (written pieces) (written pieces') := by
  have ending := h.ending cut
  cases h with
  | nil => exact ⟨rfl, rfl, ending⟩
  | word => cases pauses
  | comment => cases pauses
  | @blanks run run' pieces pieces' some_ some_' plain =>
    have dark := all_isBlank_of_isCut (isCut_append.mp cut).1
    obtain ⟨c, run, rfl⟩ := List.exists_cons_of_ne_nil some_
    obtain ⟨c', run', rfl⟩ := List.exists_cons_of_ne_nil some_'
    exact ⟨((Bool.and_eq_true _ _).mp dark).1, ((Bool.and_eq_true _ _).mp plain).1, ending⟩

end Piece.Relaid

/-! ## Cuts -/

/-- A piece in front of white space stands in front of other white space too. -/
theorem Piece.Stands.spacing {piece : Piece} (solid : Text) {z z' : Text} (spacing : Spacing z z')
    (stays : ∀ mark, mark = '"' ∨ mark = '\'' → ∀ s, closes mark (s ++ z) = false → closes mark (s ++ z') = false)
    (line : piece.text.head? = some '#' → z'.head?.all (· == '\n') = true)
    (joined : before'.any joinsWord = before.any joinsWord) (h : piece.Stands before (solid ++ z)) :
    piece.Stands before' (solid ++ z') := by
  unfold Stands at h ⊢
  cases kind : piece.class? with
  | none =>
    rw [kind] at h
    exact h
  | some found =>
    rw [kind] at h
    have pos := (Scan.lexeme?_extent h.2).1
    have at_ := h.2
    rw [← List.append_assoc] at at_ ⊢
    refine ⟨h.1, Scan.lexeme?_spacing spacing ?_ ?_ joined ?_ at_ ?_⟩
    · intro mark member rest _ open_
      exact longString_eq_none.mpr (stays mark (List.mem_pair.mp member) rest (longString_eq_none.mp open_))
    · rwa [List.head?_append_of_ne_nil _ (List.length_pos_iff.mp pos)]
    · rintro rfl
      cases piece <;> cases kind
    · rw [List.length_append]
      exact Nat.le_add_right _ _

/-- The end of a text that is not empty does not depend on what stands in front. -/
theorem lastOr_of_ne_nil {text : Text} (some_ : text ≠ []) (before before' : Option Char) :
    lastOr before' text = lastOr before text := by
  rw [lastOr, lastOr, List.getLast?_eq_some_getLast some_]
  rfl

/-- Behind a comment the text ends or white space follows, and a line feed stays one. -/
theorem Piece.Relaid.line (h : Relaid pieces pieces') (feed : ∀ c rest, pieces' = blank c :: rest → c = '\n')
    (cut : IsCut before pieces []) (line : (written pieces).head?.all (· == '\n') = true) :
    Pauses pieces ∧ (written pieces').head?.all (· == '\n') = true := by
  have never {piece : Piece} {z rest : Text} (stands : piece.Stands before z) (solid : piece.class? ≠ none)
      (line : (piece.text ++ rest).head?.all (· == '\n') = true) : False := by
    obtain ⟨c, text, whole, dark⟩ := stands.dark solid
    rw [whole] at line
    obtain rfl : c = '\n' := beq_iff_eq.mp line
    exact absurd dark (by decide)
  cases h with
  | nil => exact ⟨rfl, rfl⟩
  | word => exact (never cut.1 (fun none_ => nomatch none_) line).elim
  | comment => exact (never cut.1 (fun none_ => nomatch none_) line).elim
  | @blanks run run' _ _ some_ some_' =>
    refine ⟨pauses_blanks some_ _, ?_⟩
    obtain ⟨c', run', rfl⟩ := List.exists_cons_of_ne_nil some_'
    obtain rfl := feed c' _ rfl
    rfl

/-- **A cut of a text laid out anew**: the scanner finds the same words and comments. -/
theorem IsCut.relaid (joined : before'.any joinsWord = before.any joinsWord) (cut : IsCut before pieces [])
    (h : Relaid pieces pieces') : IsCut before' pieces' [] := by
  induction h generalizing before before' with
  | nil => trivial
  | @word kind text pieces pieces' relaid ih =>
    obtain ⟨stands, cut⟩ := cut
    have last : lastOr before' text = lastOr before text :=
      lastOr_of_ne_nil (List.length_pos_iff.mp stands.length_pos) _ _
    refine ⟨?_, ih (congrArg (Option.any joinsWord) last) cut⟩
    -- up to the next white space the same words follow in both texts
    obtain ⟨solid, tail, tail', rfl, rfl, relaid, pauses⟩ := relaid.split
    obtain ⟨-, cut⟩ := isCut_append.mp cut
    rw [List.append_nil, written_append] at stands ⊢
    exact stands.spacing _ (relaid.spacing pauses cut) (fun mark quote => relaid.staysOpen cut quote)
      (fun mark => absurd mark stands.head?_ne) joined
  | @comment text pieces pieces' feed relaid ih =>
    obtain ⟨stands, cut⟩ := cut
    have last : lastOr before' text = lastOr before text :=
      lastOr_of_ne_nil (List.length_pos_iff.mp stands.length_pos) _ _
    refine ⟨?_, ih (congrArg (Option.any joinsWord) last) cut⟩
    rw [List.append_nil] at stands ⊢
    -- no word stands between a comment and the line feed that ends it
    obtain ⟨pauses, line⟩ := relaid.line feed cut stands.line
    exact stands.spacing [] (relaid.spacing pauses cut) (fun mark quote => relaid.staysOpen cut quote)
      (fun _ => line) joined
  | @blanks run run' _ _ some_ some_' plain relaid ih =>
    obtain ⟨dark, cut⟩ := isCut_append.mp cut
    have blank' := Piece.Relaid.all_isBlank plain
    refine isCut_append.mpr ⟨isCut_blanks blank', ih ?_ cut⟩
    rw [written_blanks, written_blanks, any_joinsWord_lastOr some_' blank',
      any_joinsWord_lastOr some_ (all_isBlank_of_isCut dark)]

/-! ## Texts -/

/-- **A text laid out anew**: each run of white space between its tokens and comments is replaced by some other run of
spaces, tabs and line ends, which still starts with a line feed behind a comment. -/
def Text.Relaid (text text' : Text) : Prop :=
  ∃ pieces pieces', IsCut none pieces [] ∧ written pieces = text ∧ Piece.Relaid pieces pieces' ∧
    written pieces' = text'

/-- The tokens of a text with a cut are those of its pieces. -/
theorem tokens_of_isCut {limits : Limits} {tokens : List Token} (cut : IsCut none pieces [])
    (tokenized : tokenize limits (written pieces) = .ok tokens) :
    (placed .start pieces).length ≤ limits.maxTokens ∧
      tokens = placed .start pieces ++ [⟨.eof, [], Position.start.after (written pieces)⟩] := by
  have whole := tokenize_of_isCut cut fun _ _ _ _ full => by rw [tokenized] at full; cases full
  rw [tokenized] at whole
  obtain rfl := Except.ok.inj whole
  obtain ⟨-, found, -, -, few, same⟩ := tokenize_eq_ok.mp tokenized
  rw [(List.append_inj' same rfl).1]
  exact ⟨few, rfl⟩

end QuerySignature
