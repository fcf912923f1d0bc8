import QuerySignature.Proofs.Origin.Queries
import QuerySignature.Proofs.Outcome.Moved
import QuerySignature.Proofs.Path.Glued
import QuerySignature.Proofs.Query.Reread
import QuerySignature.Proofs.Signs.Terms

/-!
# Proofs/Path/Reread — the text of a path is read back

A path keeps nothing but the text of its tokens, without a space between them.  That is enough: it is cut into the same
tokens again (`isCut_glued`), and a verb that takes tokens in front of others takes them where nothing follows, too
(`Severed`), as deep as before or deeper.  So the text of each path of a query is read as that path again, to its end
(`parse_path`).
-/

namespace QuerySignature

open Piece

namespace Reader

variable {α β : Type} {depth : Option Inside} {p : Token → Bool} {R : Reader α} {N : α → Reader β}
  {tokens tokens' taken rest : List Token} {text : Text}

/-! ## Where nothing follows -/

/-- **What the reader takes in front of others, it takes where nothing follows.** -/
def Severed (R : Reader α) : Prop :=
  ∀ ⦃taken rest : List Token⦄ ⦃a : α⦄, R.read (taken ++ rest) = .done a rest → R.read taken = .done a []

/-- A reader that is detached from anything. -/
theorem Detached.severed (h : Detached nothing R) : Severed R := by
  intro taken rest a read
  have alone := @h taken rest [] a (.inr ⟨by cases rest <;> rfl, rfl⟩) read
  rwa [List.append_nil] at alone

namespace Severed

/-- What is left may be what the next reader takes, or nothing. -/
theorem front {a : α} {front behind : List Token} (h : Severed R) (detached : Detached p R)
    (read : R.read (front ++ (behind ++ rest)) = .done a (behind ++ rest)) :
    R.read (front ++ behind) = .done a behind := by
  cases behind with
  | nil =>
    rw [List.append_nil]
    exact h read
  | cons token behind => exact @detached front (token :: behind ++ rest) (token :: behind) a (.inl rfl) read

theorem bind (first : Severed R) (detached : Detached p R) (next : ∀ a, Severed (N a)) : Severed (R >>= N) := by
  intro taken rest b read
  obtain ⟨a, front, behind, rfl, firstRead, nextRead⟩ := bind_taken read
  exact bind_done.mpr ⟨a, behind, first.front detached firstRead, next a nextRead⟩

theorem pure {a : α} : Severed (Pure.pure a) := Detached.pure.severed

theorem optionalSymbol {symbols : List String} : Severed (Reader.optionalSymbol symbols) := by
  intro taken rest found read
  obtain ⟨whole, optional, -⟩ := optionalSymbol_done.mp read
  obtain rfl := List.append_cancel_right whole
  exact optionalSymbol_done.mpr ⟨(List.append_nil _).symm, optional, fun _ => rfl⟩

/-- **Phrases with a symbol between them**, by induction on how many tokens are taken. -/
theorem separated {mark : String} {item : Reader (List Token)} (h : Severed item) (detached : Detached p item) :
    Severed (Reader.separated mark item) := by
  intro taken
  induction length : taken.length using Nat.strong_induction_on generalizing taken with
  | _ n ih =>
  subst length
  intro rest found read
  obtain ⟨first, between, firstRead, ⟨rfl, rfl, -⟩ | ⟨token, behind, others, rfl, is, othersRead, rfl⟩⟩ :=
    separated_done.mp read
  · exact separated_done.mpr ⟨_, [], h firstRead, .inl ⟨rfl, rfl, rfl⟩⟩
  · obtain ⟨later, rfl⟩ := exists_taken othersRead
    obtain ⟨front, whole⟩ := exists_taken firstRead
    obtain rfl : taken = front ++ token :: later :=
      List.append_cancel_right (whole.trans (List.append_assoc front (token :: later) rest).symm)
    have firstRead : item.read (front ++ (token :: later ++ rest)) = .done first (token :: later ++ rest) := by
      rwa [List.append_assoc] at firstRead
    refine separated_done.mpr ⟨first, _, h.front detached firstRead, .inr ⟨token, later, others, rfl, is, ?_, rfl⟩⟩
    exact ih later.length (by rw [List.length_append, List.length_cons]; omega) rfl othersRead

section Depth

variable (hd : DepthDetached depth)
include hd

theorem pathElement : Severed (Reader.pathElement depth) :=
  optionalSymbol.bind (Detached.optionalSymbol fun _ => id) fun _ =>
    (Detached.pathPrimary hd).severed.bind (p := nothing) (Detached.pathPrimary hd) fun _ =>
      optionalSymbol.bind (Detached.optionalSymbol fun _ => id) fun _ => .pure

/-- **A path ends where nothing follows**, even if a token followed that could repeat it. -/
theorem path : Severed (Reader.path depth) :=
  separated (separated (pathElement hd) (Detached.pathElement hd))
    (Detached.separated (Detached.pathElement hd) fun _ is => Token.isSymbol_mono is (by decide))

/-- **A verb ends where nothing follows.** -/
theorem verb : Severed (Reader.verb depth) := by
  intro taken rest found read
  rcases verb_done read with ⟨token, whole, isVar, rfl⟩ | ⟨notVar, starts, path_, pathRead, rfl⟩
  · obtain rfl := List.append_cancel_right (show taken ++ rest = [token] ++ rest from whole)
    exact bind_done.mpr ⟨some token, [], accept?_some.mpr ⟨rfl, isVar⟩, rfl⟩
  · obtain ⟨token, others, rfl⟩ := Progress.verb.exists_cons read
    exact verb_of_path starts notVar (path hd pathRead)

end Depth

end Severed

/-! ## Verbs elsewhere -/

/-- Where more brackets may be open, a verb is the same. -/
theorem verb_deeper {brackets more : Nat} {found : Verb} (le : brackets ≤ more)
    (read : (verb (inside brackets)).read tokens = .done found rest) :
    (verb (inside more)).read tokens = .done found rest :=
  Tracks.done_deeper (verb_tracks (inside_tracks (.inr ⟨trivial, le⟩))) Eq.symm read

/-- Tokens elsewhere write the same verb. -/
theorem verb_moved {brackets : Nat} {found : Verb} (moved : List.Forall₂ Token.Moved tokens tokens')
    (read : (verb (inside brackets)).read tokens = .done found []) :
    (verb (inside brackets)).read tokens' = .done found [] := by
  let reader := verb (inside brackets)
  have taken : (reader.steps tokens).flatMap Step.tokens = tokens := by
    have whole := conserves_done read
    rwa [List.append_nil] at whole
  have respells := respells_moved (reader.sound tokens) (taken.symm ▸ moved)
  obtain ⟨_, readAgain, rfl, -⟩ := (verb_tracks (inside_tracks (.inl rfl))).done read respells .nil
  rwa [List.append_nil] at readAgain

/-! ## Verbs that are paths -/

/-- The text of a path is that of its tokens. -/
theorem text_of_verbOf (h : verbOf taken = .path text) : text = taken.flatMap Token.text := by
  match taken with
  | [] => exact (Verb.path.inj h).symm
  | [_] => cases h
  | _ :: _ :: _ => exact (Verb.path.inj h).symm

/-- What the reader of paths takes is a path. -/
theorem isPath_of_read {brackets : Nat} (read : (path (inside brackets)).read tokens = .done taken rest) :
    tokens = taken ++ rest ∧ IsPath taken := by
  have deeper := Tracks.done_deeper
    (path_tracks (inside_tracks (.inr ⟨trivial, Nat.le_max_left brackets (Token.openings tokens)⟩))) eq_of_twins read
  obtain ⟨whole, isPath, -⟩ := (path_exactly _ (Nat.le_max_right _ _)).mp deeper
  exact ⟨whole, isPath⟩

/-- **A verb that is a path takes the tokens of a path**, and its text is theirs. -/
theorem isPath_of_verb {brackets : Nat} (read : (verb (inside brackets)).read (taken ++ rest) = .done (.path text) rest) :
    IsPath taken ∧ text = taken.flatMap Token.text := by
  rcases verb_done read with ⟨_, -, -, other⟩ | ⟨-, -, path_, pathRead, same⟩
  · cases other
  · obtain ⟨whole, isPath⟩ := isPath_of_read pathRead
    obtain rfl := List.append_cancel_right whole
    exact ⟨isPath, text_of_verbOf same⟩

end Reader

/-! ## Paths of a query -/

/-- **Somewhere among the tokens a verb takes these**, and is a path with the text. -/
inductive Token.TakenAsPath (whole : List Token) (deepest : Nat) (taken : List Token) (text : Text) : Prop where
  | at {brackets : Nat} {before behind : List Token} : brackets ≤ deepest → whole = before ++ (taken ++ behind) →
      (Reader.verb (Reader.inside brackets)).read (taken ++ behind) = .done (.path text) behind →
      TakenAsPath whole deepest taken text

/-- **The text is cut into the tokens, by kind and text, and read as a path with the text again**, to its end and under
the same limits. -/
def Token.ReadsBack (limits : Limits) (taken : List Token) (text : Text) : Prop :=
  ∃ again stop, tokenize limits text = .ok (again ++ [⟨.eof, [], stop⟩]) ∧ List.Forall₂ Token.Moved taken again ∧
    (Reader.verb (Reader.inside limits.maxDepth)).read again = .done (.path text) []

variable {limits : Limits} {text source : Text} {tokens taken : List Token} {query : Query}

/-- **Each path in the tokens of a text is read back** from the text that is kept of it. -/
theorem Token.TakenAsPath.readsBack (tokenized : tokenize limits source = .ok tokens)
    (h : TakenAsPath (Token.beforeEnd tokens).1 limits.maxDepth taken text) : ReadsBack limits taken text := by
  obtain ⟨short, pieces, cut, rfl, few, rfl⟩ := tokenize_eq_ok.mp tokenized
  rw [beforeEnd_placed cut] at h
  obtain @⟨brackets, before, behind, within, whole, read⟩ := h
  replace whole : placed .start pieces = before ++ (taken ++ behind) := whole
  obtain ⟨isPath, rfl⟩ := Reader.isPath_of_verb read
  have inside : taken.Sublist (placed .start pieces) := by
    rw [whole]
    exact (List.infix_append' before taken behind).sublist
  -- the tokens of the path are cut out again without a space between them
  have joined := joined_alternatives isPath
  have glued : IsCut none (taken.map Token.piece) [] :=
    isCut_glued (fun token member => found_of_mem cut (inside.subset member)) joined.chain joined.last
  have moved := moved_glued taken .start
  refine ⟨placed .start (taken.map Token.piece), Position.start.after (taken.flatMap Token.text),
    tokenize_eq_ok.mpr ⟨?_, _, glued, written_glued taken, ?_, rfl⟩, moved, ?_⟩
  · refine Nat.le_trans ?_ (Nat.le_trans (length_flatMap_placed .start pieces) short)
    rw [whole, List.flatMap_append, List.flatMap_append, List.length_append, List.length_append]
    omega
  · rw [← moved.length_eq]
    exact Nat.le_trans inside.length_le few
  · -- and where nothing follows them they are read as they were
    have alone := Reader.Severed.verb (Reader.Detached.inside brackets) read
    exact Reader.verb_moved moved (Reader.verb_deeper within alone)

/-- **The text of a path is faithful**: a text that is read has tokens, a verb takes each path of the query among them, and
whichever tokens are taken as the path, its text is cut into these again and is read as the path again. -/
theorem parse_path (parsed : parse limits source = .ok query) (stands : query.tree.Has (.path text)) :
    ∃ tokens, tokenize limits source = .ok tokens ∧
      (∃ taken, Token.TakenAsPath (Token.beforeEnd tokens).1 limits.maxDepth taken text) ∧
      ∀ taken, Token.TakenAsPath (Token.beforeEnd tokens).1 limits.maxDepth taken text →
        Token.ReadsBack limits taken text := by
  obtain ⟨short, pieces, cut, rfl, few, read⟩ := parse_eq_ok.mp parsed
  have tokenized := tokenize_eq_ok.mpr ⟨short, pieces, cut, rfl, few, rfl⟩
  refine ⟨_, tokenized, ?_, fun taken h => h.readsBack tokenized⟩
  have traced := Reader.query_traced (Reader.inside_traced (Nat.le_refl limits.maxDepth)) (List.suffix_refl _) read
  obtain @⟨brackets, before, taken, behind, within, whole, verbRead⟩ : Reader.Occurs _ _ _ _ := traced _ stands
  rw [beforeEnd_placed cut]
  exact ⟨taken, .at within whole verbRead⟩

/-- A path with a repetition, inversions and a negation, and with spaces between some of its tokens. -/
theorem parse_path_ask :
    ∃ query tokens, parse .standard "ASK \x7b ?s ex:p+ / ^a | !( ^ ex:q ) ?o \x7d".toList = .ok query ∧
      query.tree.Has (.path "ex:p+/^a|!(^ex:q)".toList) ∧
      tokenize .standard "ASK \x7b ?s ex:p+ / ^a | !( ^ ex:q ) ?o \x7d".toList = .ok tokens ∧
      ∃ taken, Token.TakenAsPath (Token.beforeEnd tokens).1 Limits.standard.maxDepth taken "ex:p+/^a|!(^ex:q)".toList ∧
        Token.ReadsBack .standard taken "ex:p+/^a|!(^ex:q)".toList := by
  let triple : Triple := ⟨.var ['s'], .path "ex:p+/^a|!(^ex:q)".toList, .var ['o']⟩
  have parsed : parse .standard "ASK \x7b ?s ex:p+ / ^a | !( ^ ex:q ) ?o \x7d".toList =
    .ok ⟨[], .ask (.pattern [.triple ⟨.var ['s'], .path "ex:p+/^a|!(^ex:q)".toList, .var ['o']⟩]) .empty none⟩ := rfl
  have inside : triple.tree.Has (.path "ex:p+/^a|!(^ex:q)".toList) := .child (.tail _ (.head _)) (.root _)
  have stands : (Query.tree ⟨[], .ask (.pattern [.triple triple]) .empty none⟩).Has (.path "ex:p+/^a|!(^ex:q)".toList) :=
    @Tree.Has.child _ (Group.tree (.pattern [.triple triple])) _ (.head _) (.child (.head _) inside)
  obtain ⟨tokens, tokenized, ⟨taken, isTaken⟩, all⟩ := parse_path parsed stands
  exact ⟨_, tokens, parsed, stands, tokenized, taken, isTaken, all taken isTaken⟩

end QuerySignature
