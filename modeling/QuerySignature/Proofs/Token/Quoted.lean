import QuerySignature.Proofs.Query.Split
import QuerySignature.Proofs.Token.Head

/-!
# Proofs/Token/Quoted — what the scanner matches as a quoted literal

A string opens with marks and runs to the first place where they stand unprotected, and a language tag, an IRI or a
name may follow it without a gap.  `Quoted.Matches` says that these are the parts of a literal (`quotedLiteral_matches`).
No mark stands in what follows, but in an IRI, and in a name behind a backslash (`prefixedName_guarded`).
-/

namespace QuerySignature.Lexeme

open Literal (isTagChar marksOf)

variable {mark : Char} {text rest : Text} {taken n : Nat}

/-! ## Strings -/

/-- A string in one mark closes with it, and its body does not start with it. -/
theorem shortString_eq_some (plain : mark ≠ '\\') (h : shortString mark text taken = some n) :
    ∃ body rest, text = body ++ mark :: rest ∧ n = taken + body.length + 1 ∧ body.head? ≠ some mark := by
  fun_induction shortString mark text taken with
  | case1 => cases h
  | case2 c rest taken line ih =>
    obtain ⟨body, behind, rfl, rfl, -⟩ := ih h
    refine ⟨'\\' :: c :: body, behind, rfl, ?_, fun same => plain (Option.some.inj same).symm⟩
    simp only [List.length_cons]
    omega
  | case3 rest taken escape =>
    exact ⟨[], rest, rfl, (Option.some.inj h).symm, by simp⟩
  | case4 => cases h
  | case5 c rest taken escape other free ih =>
    obtain ⟨body, behind, rfl, rfl, -⟩ := ih h
    refine ⟨c :: body, behind, rfl, ?_, fun same => other (Option.some.inj same)⟩
    simp only [List.length_cons]
    omega
  | case6 => cases h

/-- A string in three marks closes with them. -/
theorem longString_eq_some (h : longString mark text taken = some n) :
    ∃ body rest, text = body ++ [mark, mark, mark] ++ rest ∧ n = taken + body.length + 3 := by
  fun_induction longString mark text taken with
  | case1 c rest taken ih =>
    obtain ⟨body, behind, rfl, rfl⟩ := ih h
    refine ⟨'\\' :: c :: body, behind, rfl, ?_⟩
    simp only [List.length_cons]
    omega
  | case2 c rest taken escape closing =>
    obtain ⟨rfl, starts⟩ := closing
    obtain ⟨behind, rfl⟩ := List.isPrefixOf_iff_prefix.mp starts
    exact ⟨[], behind, rfl, (Option.some.inj h).symm⟩
  | case3 => cases h
  | case4 c rest taken escape other free ih =>
    obtain ⟨body, behind, rfl, rfl⟩ := ih h
    refine ⟨c :: body, behind, rfl, ?_⟩
    simp only [List.length_cons]
    omega
  | case5 => cases h

/-- A quotation mark. -/
def IsQuote (mark : Char) : Prop :=
  mark = '"' ∨ mark = '\''

theorem IsQuote.ne_backslash (h : IsQuote mark) : mark ≠ '\\' := by
  rcases h with rfl | rfl <;> decide

/-- **A string stands between its marks.** -/
theorem stringIn_eq_some {long : Bool} (quote : IsQuote mark) (h : stringIn mark long text = some n) :
    ∃ body rest, text = marksOf mark long ++ (body ++ marksOf mark long ++ rest) ∧
      n = (marksOf mark long ++ (body ++ marksOf mark long)).length ∧ (long = false → body.head? ≠ some mark) := by
  cases long with
  | true =>
    rw [stringIn, if_pos rfl] at h
    split at h
    · next starts =>
      obtain ⟨behind, rfl⟩ := List.isPrefixOf_iff_prefix.mp starts
      obtain ⟨body, rest, rfl, rfl⟩ := longString_eq_some h
      refine ⟨body, rest, rfl, ?_, Bool.noConfusion⟩
      simp [marksOf]
      omega
    · cases h
  | false =>
    rw [stringIn, if_neg Bool.false_ne_true] at h
    split at h
    · next first =>
      obtain ⟨behind, rfl⟩ := List.head?_eq_some_iff.mp first
      obtain ⟨body, rest, rfl, rfl, other⟩ := shortString_eq_some quote.ne_backslash h
      refine ⟨body, rest, ?_, ?_, fun _ => other⟩
      · simp [marksOf]
      · simp [marksOf]
        omega
    · cases h

/-- A string is in one of the four styles, and none in front of it matches. -/
theorem string_eq_some (h : string text = some n) :
    ∃ mark long, IsQuote mark ∧ stringIn mark long text = some n := by
  simp only [string, Option.or_eq_some_iff] at h
  rcases h with h | ⟨-, h | ⟨-, h | ⟨-, h⟩⟩⟩
  · exact ⟨_, _, .inl rfl, h⟩
  · exact ⟨_, _, .inr rfl, h⟩
  · exact ⟨_, _, .inl rfl, h⟩
  · exact ⟨_, _, .inr rfl, h⟩

/-! ## Names -/

/-- The marks that a name holds behind a backslash only, or not at all. -/
def guardedMarks : Text :=
  ['\'', '"', '@', '^', '<', '\n', '\\']

theorem IsQuote.mem_guardedMarks (h : IsQuote mark) : mark ∈ guardedMarks := by
  rcases h with rfl | rfl <;> decide

/-- **Marks are guarded**: each stands behind a backslash. -/
inductive Guarded : Text → Prop where
  | nil : Guarded []
  | bare {c : Char} {rest : Text} : c ∉ guardedMarks → Guarded rest → Guarded (c :: rest)
  | escaped {c : Char} {rest : Text} : isProtected c = true → Guarded rest → Guarded ('\\' :: c :: rest)

/-- A class of characters without marks. -/
theorem not_mem_guardedMarks {p : Char → Bool} (none_ : guardedMarks.any p = false) {c : Char} (h : p c = true) :
    c ∉ guardedMarks :=
  fun member => List.any_eq_false.mp none_ c member h

theorem Guarded.append {text : Text} (bare : ∀ c ∈ text, c ∉ guardedMarks) (h : Guarded rest) :
    Guarded (text ++ rest) := by
  induction text with
  | nil => exact h
  | cons c text ih =>
    rw [List.forall_mem_cons] at bare
    exact .bare bare.1 (ih bare.2)

/-- A name that goes on behind what is passed does so with guarded marks, if at all. -/
theorem Guarded.behind {found taken : Nat} (h : found = taken ∨ ∃ n, found = taken + n ∧ Guarded (rest.take n)) :
    ∃ n, found = taken + n ∧ Guarded (rest.take n) :=
  h.elim (fun same => ⟨0, same, .nil⟩) id

/-- **The marks of a local name are guarded**, as far as it goes. -/
theorem localName_guarded (text : Text) (taken good : Nat) :
    localName text taken good = good ∨ ∃ n, localName text taken good = taken + n ∧ Guarded (text.take n) := by
  fun_induction localName text taken good with
  | case1 a b rest taken good hex ih =>
    obtain ⟨n, length, guarded⟩ := Guarded.behind ih
    have digits := Bool.and_eq_true_iff.mp hex
    refine .inr ⟨n + 3, by omega, .bare (by decide) (.bare ?_ (.bare ?_ guarded))⟩
    · exact not_mem_guardedMarks (by decide) digits.1
    · exact not_mem_guardedMarks (by decide) digits.2
  | case2 => exact .inl rfl
  | case3 c rest taken good protection ih =>
    obtain ⟨n, length, guarded⟩ := Guarded.behind ih
    exact .inr ⟨n + 2, by omega, .escaped protection guarded⟩
  | case4 => exact .inl rfl
  | case5 c rest taken good _ _ name ih =>
    obtain ⟨n, length, guarded⟩ := Guarded.behind ih
    refine .inr ⟨n + 1, by omega, .bare ?_ guarded⟩
    exact @not_mem_guardedMarks (fun d => Text.isWord d || d == ':') (by decide) c name
  | case6 c rest taken good _ _ _ hyphen ih =>
    obtain ⟨n, length, guarded⟩ := Guarded.behind ih
    exact .inr ⟨n + 1, by omega, .bare (by rw [hyphen.1]; decide) guarded⟩
  | case7 c rest taken good _ _ _ _ point ih =>
    obtain same | ⟨n, length, guarded⟩ := ih
    · exact .inl same
    · exact .inr ⟨n + 1, by omega, .bare (by rw [point.1]; decide) guarded⟩
  | case8 => exact .inl rfl
  | case9 => exact .inl rfl

/-- A namespace label and its colon hold no marks. -/
theorem namespaceLabel_bare (h : namespaceLabel text = some n) : ∀ c ∈ text.take (n + 1), c ∉ guardedMarks := by
  unfold namespaceLabel at h
  split at h
  · obtain rfl := Option.some.inj h
    simp [guardedMarks]
  · next c rest _ =>
    dsimp only at h
    split at h
    · next letter =>
      split at h
      · next closed =>
        obtain rfl := Option.some.inj h
        have colon := of_decide_eq_true (Bool.and_eq_true_iff.mp closed).2
        obtain ⟨behind, whole⟩ := List.head?_eq_some_iff.mp colon
        have label : rest.take ((rest.takeWhile isLabelChar).length + 1) = rest.takeWhile isLabelChar ++ [':'] := by
          rw [List.take_add, whole]
          exact congrArg (· ++ [':']) (take_run isLabelChar rest)
        rw [List.take_succ_cons, label, List.forall_mem_cons, List.forall_mem_append, List.forall_mem_singleton]
        refine ⟨?_, fun d member => ?_, by decide⟩
        · exact not_mem_guardedMarks (by decide) (Bool.and_eq_true_iff.mp letter).1
        · exact not_mem_guardedMarks (by decide) (List.all_eq_true.mp List.all_takeWhile d member)
      · cases h
    · cases h
  · cases h

/-- **The marks of a name under a namespace are guarded.** -/
theorem prefixedName_guarded {name : Text} (h : prefixedName (name ++ rest) = some name.length) : Guarded name := by
  obtain ⟨label, found, length⟩ := Option.map_eq_some_iff.mp h
  obtain ⟨n, local_, guarded⟩ := Guarded.behind (localName_guarded ((name ++ rest).drop (label + 1)) 0 0)
  have whole : name = (name ++ rest).take (label + 1) ++ ((name ++ rest).drop (label + 1)).take n := by
    rw [← List.take_add, show label + 1 + n = name.length by omega, List.take_left]
  rw [whole]
  exact guarded.append (namespaceLabel_bare found)

/-- **Behind each mark the text is guarded again**, and a backslash stands in front of it. -/
theorem Guarded.split {front back : Text} (h : Guarded (front ++ mark :: back)) (member : mark ∈ guardedMarks)
    (plain : mark ≠ '\\') : front.getLast? = some '\\' ∧ isProtected mark = true ∧ Guarded back := by
  generalize whole : front ++ mark :: back = text at h
  induction h generalizing front with
  | nil => exact absurd whole (List.append_ne_nil_of_right_ne_nil _ (List.cons_ne_nil _ _))
  | bare free _ ih =>
    cases front with
    | nil =>
      obtain ⟨rfl, -⟩ := List.cons.inj whole
      exact absurd member free
    | cons d front =>
      obtain ⟨rfl, rest⟩ := List.cons.inj whole
      obtain ⟨last, others⟩ := ih rest
      exact ⟨by rw [List.getLast?_cons, last]; rfl, others⟩
  | escaped protection guarded ih =>
    match front, whole with
    | [], whole => exact absurd (List.cons.inj whole).1 plain
    | [d], whole =>
      obtain ⟨rfl, rest⟩ := List.cons.inj whole
      obtain ⟨rfl, rfl⟩ := List.cons.inj rest
      exact ⟨rfl, protection, guarded⟩
    | d :: e :: front, whole =>
      obtain ⟨last, others⟩ := ih (List.cons.inj (List.cons.inj whole).2).2
      exact ⟨by rw [List.getLast?_cons, List.getLast?_cons, last]; rfl, others⟩

/-! ## Annotations -/

/-- **What follows a string without a gap**, in front of the rest: nothing, or a language tag behind its mark, or a
datatype behind its two, which is an IRI in brackets or else a name. -/
inductive Follows (rest : Text) : (suffix : Text) → (language datatype : Option Text) → Prop where
  | nothing : annotated rest = none → Follows rest [] none none
  | language {tag : Text} : languageTag (tag ++ rest) = some tag.length → Follows rest ('@' :: tag) (some tag) none
  | iri {name : Text} : iri ('<' :: name ++ '>' :: rest) = some (name.length + 2) →
      Follows rest ('^' :: '^' :: '<' :: name ++ ['>']) none (some name)
  | name {name : Text} : iri (name ++ rest) = none → prefixedName (name ++ rest) = some name.length →
      Follows rest ('^' :: '^' :: name) none (some name)

/-- An IRI stands between its brackets. -/
theorem iri_eq_some (h : iri text = some n) :
    ∃ name rest, text = '<' :: name ++ '>' :: rest ∧ n = name.length + 2 ∧ name.all isIriChar = true := by
  unfold iri at h
  split at h
  · next behind =>
    dsimp only at h
    split at h
    · next closed =>
      obtain rfl := Option.some.inj h
      obtain ⟨rest, whole⟩ := List.head?_eq_some_iff.mp closed
      refine ⟨behind.take (run isIriChar behind), rest, ?_, ?_, ?_⟩
      · rw [← whole, List.cons_append, List.take_append_drop]
      · rw [List.length_take_of_le (run_le isIriChar behind)]
      · rw [take_run]
        exact List.all_takeWhile
    · cases h
  · cases h

/-- Subtags are made of the characters of a language tag. -/
theorem subtags_isTagChar {text : Text} {taken good : Nat} (start : good ≤ taken)
    (h : subtags (text ++ rest) taken good = taken + text.length) : text.all isTagChar = true := by
  induction text generalizing taken good with
  | nil => rfl
  | cons c text ih =>
    rw [List.cons_append, subtags, List.length_cons] at h
    rw [List.all_cons, Bool.and_eq_true]
    split at h
    · next hyphen =>
      exact ⟨by rw [hyphen.1]; decide, @ih (taken + 1) good (Nat.le_succ_of_le start) (by omega)⟩
    · split at h
      · next letter =>
        refine ⟨?_, @ih (taken + 1) (taken + 1) (Nat.le_refl _) (by omega)⟩
        rw [isTagChar]
        exact (Bool.or_eq_true _ _).mpr (.inl letter.1)
      · omega

/-- **A language tag is made of its characters**, and has one. -/
theorem languageTag_isTagChar {tag : Text} (h : languageTag (tag ++ rest) = some tag.length) :
    tag ≠ [] ∧ tag.all isTagChar = true := by
  obtain ⟨n, letters, length⟩ := Option.map_eq_some_iff.mp h
  obtain ⟨whole, pos⟩ := run?_eq_some.mp letters
  have inside : n ≤ tag.length := by omega
  rw [List.drop_append_of_le_length inside] at length
  refine ⟨List.length_pos_iff.mp (by omega), ?_⟩
  rw [← List.take_append_drop n tag, List.all_append, Bool.and_eq_true]
  constructor
  · have early : tag.take n = (tag ++ rest).takeWhile isLetter := by
      rw [← take_run, whole, List.take_append_of_le_length inside]
    rw [early]
    refine List.all_eq_true.mpr fun c member => ?_
    have letter : c.isAlpha = true := List.all_eq_true.mp List.all_takeWhile c member
    rw [isTagChar, Char.isAlphanum, letter]
    rfl
  · exact @subtags_isTagChar rest _ 0 0 (Nat.le_refl 0) (by rw [List.length_drop]; omega)

/-- A text parts where a rule has found its end. -/
theorem parts_at (inside : n ≤ text.length) : ∃ front rest, text = front ++ rest ∧ front.length = n :=
  ⟨text.take n, text.drop n, (List.take_append_drop n text).symm, List.length_take_of_le inside⟩

/-- **What is annotated** falls into the annotation and the rest. -/
theorem follows_annotated (text : Text) : ∃ suffix rest language datatype,
    text = suffix ++ rest ∧ (annotated text).getD 0 = suffix.length ∧ Follows rest suffix language datatype := by
  cases found : annotated text with
  | none => exact ⟨[], text, none, none, rfl, rfl, .nothing found⟩
  | some n =>
    unfold annotated at found
    split at found
    · next behind =>
      obtain ⟨m, tagged, rfl⟩ := Option.map_eq_some_iff.mp found
      obtain ⟨tag, rest, rfl, rfl⟩ := parts_at (languageTag_extent tagged)
      exact ⟨'@' :: tag, rest, some tag, none, rfl, rfl, .language tagged⟩
    · next behind =>
      obtain ⟨m, typed, rfl⟩ := Option.map_eq_some_iff.mp found
      obtain bracketed | ⟨open_, named⟩ := Option.or_eq_some_iff.mp typed
      · obtain ⟨name, rest, rfl, rfl, -⟩ := iri_eq_some bracketed
        exact ⟨'^' :: '^' :: '<' :: name ++ ['>'], rest, none, some name, by simp, by simp, .iri bracketed⟩
      · obtain ⟨name, rest, rfl, rfl⟩ := parts_at (prefixedName_extent named).2
        exact ⟨'^' :: '^' :: name, rest, none, some name, rfl, rfl, .name open_ named⟩
    · cases found

/-- What follows a string starts with no mark of one. -/
theorem Follows.head? {suffix : Text} {language datatype : Option Text} (h : Follows rest suffix language datatype)
    (quote : IsQuote mark) : suffix.head? ≠ some mark := by
  cases h with
  | nothing => exact nofun
  | language | iri | name => rcases quote with rfl | rfl <;> exact fun same => absurd (Option.some.inj same) (by decide)

/-! ## Quoted literals -/

/-- **The parts of a quoted literal**: what stands between the marks of its string, and what follows them, with the
language or the datatype that this names. -/
structure Quoted where
  mark : Char
  long : Bool
  body : Text
  suffix : Text
  language : Option Text
  datatype : Option Text

namespace Quoted

/-- The string, with its marks. -/
def string (parts : Quoted) : Text :=
  marksOf parts.mark parts.long ++ (parts.body ++ marksOf parts.mark parts.long)

/-- The text of the literal. -/
def written (parts : Quoted) : Text :=
  parts.string ++ parts.suffix

variable {parts : Quoted}

theorem written_eq (parts : Quoted) : parts.written =
    marksOf parts.mark parts.long ++ (parts.body ++ marksOf parts.mark parts.long ++ parts.suffix) := by
  simp only [Quoted.written, Quoted.string, List.append_assoc]

/-- **The scanner matches the parts** in front of the rest: their string is the one it takes, and it takes it for one
in these marks. -/
structure Matches (parts : Quoted) (rest : Text) : Prop where
  quote : IsQuote parts.mark
  string : Lexeme.string (parts.written ++ rest) = some parts.string.length
  style : stringIn parts.mark parts.long (parts.written ++ rest) = some parts.string.length
  follows : Follows rest parts.suffix parts.language parts.datatype

/-- The body of a string in one mark does not start with it. -/
theorem Matches.body_head (h : parts.Matches rest) (one : parts.long = false) : parts.body.head? ≠ some parts.mark := by
  obtain ⟨body, behind, whole, length, opens⟩ := stringIn_eq_some h.quote h.style
  simp only [written_eq, List.append_assoc] at whole
  have same : parts.body.length = body.length := by
    simp only [Quoted.string, List.length_append] at length
    omega
  obtain ⟨rfl, -⟩ := List.append_inj (List.append_cancel_left whole) same
  exact opens one

end Quoted

/-- **A quoted literal has its parts.** -/
theorem quotedLiteral_matches (h : quotedLiteral text = some n) :
    ∃ (parts : Quoted) (rest : Text), text = parts.written ++ rest ∧ n = parts.written.length ∧ parts.Matches rest := by
  obtain ⟨m, whole, rfl⟩ := Option.map_eq_some_iff.mp h
  obtain ⟨mark, long, quote, style⟩ := string_eq_some whole
  obtain ⟨body, behind, rfl, rfl, -⟩ := stringIn_eq_some quote style
  have parted : marksOf mark long ++ (body ++ marksOf mark long ++ behind) =
      marksOf mark long ++ (body ++ marksOf mark long) ++ behind := by
    simp only [List.append_assoc]
  rw [parted] at whole style ⊢
  rw [List.drop_left]
  obtain ⟨suffix, rest, language, datatype, rfl, length, follows⟩ := follows_annotated behind
  rw [← List.append_assoc] at whole style ⊢
  exact ⟨⟨mark, long, body, suffix, language, datatype⟩, rest, rfl, by rw [length, ← List.length_append]; rfl,
    quote, whole, style, follows⟩

end QuerySignature.Lexeme
