import QuerySignature.Proofs.Outcome.Run
import QuerySignature.Proofs.Query.Unplaced
import QuerySignature.Proofs.Token.Relaid

/-!
# Proofs/Outcome/Moved — the same tokens elsewhere

The places of tokens decide nothing: where every token of one list is found elsewhere in another, what comes of
reading the two differs in places only (`outcomeUnplaced_ofTokens`).  So it does for two texts of which one is the
other laid out anew (`parse_relaid`).
-/

namespace QuerySignature

open Piece

/-! ## Tokens -/

theorem Token.moved_iff {t t' : Token} : t.Moved t' ↔ t'.unplaced = t.unplaced := by
  constructor
  · intro moved
    rw [unplaced, unplaced, moved.kind, moved.text]
  · intro same
    obtain ⟨kind, text, -⟩ := Token.mk.inj same
    exact ⟨kind, text⟩

/-- Tokens are found elsewhere if they are the same but for their places. -/
theorem forall₂_moved_iff {tokens tokens' : List Token} :
    List.Forall₂ Token.Moved tokens tokens' ↔ tokens'.map Token.unplaced = tokens.map Token.unplaced := by
  induction tokens generalizing tokens' with
  | nil => cases tokens' <;> simp
  | cons t tokens ih => cases tokens' <;> simp [ih, Token.moved_iff]

/-! ## The likeness -/

/-- Of tokens that are found elsewhere, the first are. -/
theorem head?_moved {tokens tokens' : List Token} (h : List.Forall₂ Token.Moved tokens tokens') :
    Option.Rel Token.Moved tokens.head? tokens'.head? := by
  cases h with
  | nil => exact .none
  | cons first => exact .some first

/-- **Every token is taken for itself elsewhere**, and every block for the one that its tokens write there. -/
def Likeness.moved : Likeness where
  like := Token.Moved
  ahead := Token.Moved
  block _ b tokens b' tokens' :=
    IsBlock tokens b ∧ IsBlock tokens' b' ∧ List.Forall₂ Token.Moved tokens tokens' ∧ b'.vars = b.vars ∧
      b'.rows = b.rows
  lenient := False
  ahead_of_like := id
  alike := Token.Moved.alike
  reads := And.left
  writes stands := stands.2.1
  vars stands := stands.2.2.2.1
  begins stands := head?_moved stands.2.2.1

theorem Likeness.moved_faithful : Likeness.moved.Faithful where
  token := Token.moved_iff.mp
  block := by
    rintro _ ⟨vars, rows, span⟩ ⟨vars', rows', span'⟩ _ _ ⟨-, -, tokens, rfl, rfl⟩
    exact ⟨rfl, forall₂_moved_iff.mp tokens⟩

/-- Steps are respelled by their tokens elsewhere. -/
theorem respells_moved {steps : List Step} {out : List Token} (sound : ∀ step ∈ steps, step.Sound)
    (moved : List.Forall₂ Token.Moved (steps.flatMap Step.tokens) out) : Respells .moved steps out := by
  induction steps generalizing out with
  | nil =>
    cases moved
    exact .nil
  | cons step steps ih =>
    rw [List.forall_mem_cons] at sound
    obtain ⟨taken, later, rfl, here, others⟩ := forall₂_of_append moved
    cases step with
    | token t =>
      obtain _ | ⟨first, _ | _⟩ := here
      exact .token first (ih sound.2 others)
    | block b tokens region =>
      have writes : IsBlock tokens b := sound.1
      obtain ⟨span, writes'⟩ := writes.alike (here.imp fun _ _ => Token.Moved.alike)
      exact .block ⟨writes, writes', here, rfl, rfl⟩ (ih sound.2 others)

theorem ahead_moved {rest rest' : List Token} (moved : List.Forall₂ Token.Moved rest rest') :
    Ahead .moved rest rest' := by
  cases moved with
  | nil => exact .nil
  | cons first others => exact ⟨first, .inr (.ahead (head?_moved others))⟩

/-! ## Outcomes -/

variable {limits : Limits} {tokens tokens' : List Token}

/-- A fault at tokens elsewhere is the same failure elsewhere. -/
theorem unplaced_failure {fault fault' : Fault} (h : fault.Like .moved fault') (stop stop' : Position) :
    (fault'.failure limits stop').unplaced = (fault.failure limits stop).unplaced := by
  cases h with
  | unexpected expected found =>
    cases found with
    | none => rfl
    | some moved =>
      exact congrArg (fun token => Failure.rejected (.grammar expected (.token token) .start)) (Token.moved_iff.mp moved)
  | tooDeep => rfl
  | rowLength => rfl
  | unreadable => rfl

/-- **Places decide nothing**: tokens that are found elsewhere come to the same, elsewhere. -/
theorem outcomeUnplaced_ofTokens (moved : List.Forall₂ Token.Moved tokens tokens') (stop stop' : Position) :
    outcomeUnplaced (Query.ofTokens limits tokens' stop') = outcomeUnplaced (Query.ofTokens limits tokens stop) := by
  rw [← limits.reader.taken_append tokens] at moved
  obtain ⟨taken', rest', rfl, here, behind⟩ := forall₂_of_append moved
  -- what the run takes is taken elsewhere too, and what it leaves where it stops is seen there
  have tracked := @Limits.reader_tracks .moved limits limits (.inl rfl) tokens taken' rest'
    (fun _ _ _ _ _ lenient => lenient) (respells_moved (limits.reader.sound tokens) here) (ahead_moved behind)
  rw [Query.ofTokens, Query.ofTokens, show Reader.query (Reader.inside limits.maxDepth) = limits.reader from rfl]
  generalize limits.reader.read tokens = first, limits.reader.read (taken' ++ rest') = second at tracked
  cases tracked with
  | done _ like => exact congrArg Except.ok (Likeness.moved_faithful.query like)
  | stopped like => exact congrArg Except.error (unplaced_failure like stop stop')

/-- **Layout is irrelevant**: a text laid out anew has the same tokens, and is the same query or fails in the same way,
but for the places of its blocks and of what is wrong. -/
theorem parse_relaid {text text' : Text} (tokenized : tokenize limits text = .ok tokens) (relaid : text.Relaid text')
    (short : text'.length ≤ limits.maxInputLength) :
    ∃ tokens', tokenize limits text' = .ok tokens' ∧
      tokens'.map Token.unplaced = tokens.map Token.unplaced ∧
      outcomeUnplaced (parse limits text') = outcomeUnplaced (parse limits text) := by
  obtain ⟨pieces, pieces', cut, rfl, relaid, rfl⟩ := relaid
  obtain ⟨few, rfl⟩ := tokens_of_isCut cut tokenized
  have cut' : IsCut none pieces' [] := cut.relaid rfl relaid
  have same := relaid.unplaced .start .start
  have few' : (placed .start pieces').length ≤ limits.maxTokens := by
    have lengths := congrArg List.length same
    rw [List.length_map, List.length_map] at lengths
    rwa [lengths]
  have tokenized' := tokenize_eq_ok.mpr ⟨short, pieces', cut', rfl, few', rfl⟩
  refine ⟨_, tokenized', ?_, ?_⟩
  · rw [List.map_append, List.map_append, same]
    rfl
  · rw [parse_of_tokenize tokenized, parse_of_tokenize tokenized', beforeEnd_placed cut, beforeEnd_placed cut']
    exact outcomeUnplaced_ofTokens (forall₂_moved_iff.mpr same) _ _

/-- A test behind a comment, and the same test over three lines. -/
theorem parse_relaid_comment :
    let text := "ASK#?\n\x7b \x7d".toList
    let text' := "ASK#?\n\t\x7b\r\n\x7d".toList
    ∃ tokens tokens', tokenize .standard text = .ok tokens ∧ Text.Relaid text text' ∧
      text'.length ≤ Limits.standard.maxInputLength ∧ tokenize .standard text' = .ok tokens' ∧
      tokens'.map Token.unplaced = tokens.map Token.unplaced ∧
      outcomeUnplaced (parse .standard text') = outcomeUnplaced (parse .standard text) := by
  intro text text'
  let opening : Piece := .word .punctuation ['\x7b']
  let closing : Piece := .word .punctuation ['\x7d']
  let front : List Piece := blanks ['\n'] ++ opening :: (blanks [' '] ++ [closing])
  let front' : List Piece := blanks ['\n', '\t'] ++ opening :: (blanks ['\r', '\n'] ++ [closing])
  have behind : Piece.Relaid front front' :=
    .blanks (by decide) (by decide) (by decide)
      (.word _ _ (.blanks (by decide) (by decide) (by decide) (.word _ _ .nil)))
  have feed (c : Char) (rest : List Piece) (same : front' = .blank c :: rest) : c = '\n' :=
    (Piece.blank.inj (List.cons.inj same).1).symm
  have relaid : Text.Relaid text text' :=
    ⟨.word .keyword "ASK".toList :: .comment "#?".toList :: front, _,
      ⟨⟨rfl, rfl⟩, ⟨rfl, rfl⟩, rfl, ⟨rfl, rfl⟩, rfl, ⟨rfl, rfl⟩, trivial⟩, rfl, .word _ _ (.comment _ feed behind), rfl⟩
  have tokenized : tokenize .standard text = .ok _ := rfl
  have short : text'.length ≤ Limits.standard.maxInputLength := by decide
  obtain ⟨tokens', tokenized', same, outcome⟩ := parse_relaid tokenized relaid short
  exact ⟨_, tokens', tokenized, relaid, short, tokenized', same, outcome⟩

end QuerySignature
