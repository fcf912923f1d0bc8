import Mathlib.Data.List.Basic
import Mathlib.Tactic.Common
import QuerySignature.Token.Scan

/-!
# Proofs/Token/Extent — how far lexemes reach

Every rule that finds a lexeme finds at least one character and none beyond the end of the text
(`Scan.lexeme?_extent`).  `Scan.lexeme?_cases` names the rule behind a lexeme once; what a class of
lexemes has in common is read off it.
-/

namespace QuerySignature

namespace Lexeme

variable {p : Char → Bool} {text : Text} {n : Nat}

/-! ## Runs -/

/-- A run stays inside the text. -/
theorem run_le (p : Char → Bool) (text : Text) : run p text ≤ text.length :=
  (List.takeWhile_sublist p).length_le

@[simp]
theorem run_nil (p : Char → Bool) : run p [] = 0 := rfl

theorem run_cons (p : Char → Bool) (c : Char) (text : Text) :
    run p (c :: text) = if p c then run p text + 1 else 0 := by
  rw [run, List.takeWhile_cons]
  split <;> rfl

/-- The characters of a run are those the library takes. -/
theorem take_run (p : Char → Bool) (text : Text) : text.take (run p text) = text.takeWhile p := by
  induction text with
  | nil => rfl
  | cons c rest ih =>
    rw [run_cons, List.takeWhile_cons]
    split
    · rw [List.take_succ_cons, ih]
    · rfl

/-- Behind a run stands what the library leaves. -/
theorem drop_run (p : Char → Bool) (text : Text) : text.drop (run p text) = text.dropWhile p := by
  induction text with
  | nil => rfl
  | cons c rest ih =>
    rw [run_cons, List.dropWhile_cons]
    split
    · rw [List.drop_succ_cons, ih]
    · rfl

/-- A run goes on behind a text that it takes whole. -/
theorem run_append (p : Char → Bool) (text rest : Text) :
    run p (text ++ rest) = if text.all p then text.length + run p rest else run p text := by
  induction text with
  | nil => simp
  | cons c text ih =>
    rw [List.cons_append, run_cons, run_cons, List.all_cons, ih, List.length_cons]
    by_cases first : p c = true
    · by_cases others : text.all p = true
      · simp only [first, others, if_true, Bool.and_true]
        omega
      · simp [first, others]
    · simp [first]

/-- **A run takes exactly a text** if every character of it counts and the next one does not. -/
theorem run_eq_length {text rest : Text} :
    run p (text ++ rest) = text.length ↔
      text.all p = true ∧ ∀ c, rest.head? = some c → p c = false := by
  rw [run_append]
  by_cases all : text.all p = true
  · rw [if_pos all]
    cases rest with
    | nil => simp [all]
    | cons c rest =>
      rw [run_cons]
      by_cases h : p c = true <;> simp [all, h]
  · rw [if_neg all]
    refine iff_of_false (fun whole => all ?_) fun h => all h.1
    have := take_run p text
    rw [whole, List.take_length] at this
    rw [this]
    exact List.all_takeWhile

/-- What stands behind a run is inside the text. -/
theorem run_lt_of_head? {c : Char} (h : (text.drop (run p text)).head? = some c) :
    run p text < text.length := by
  by_contra beyond
  rw [List.drop_eq_nil_of_le (by omega)] at h
  cases h

/-- A run that must not be empty is a run of some character. -/
theorem run?_eq_some : run? p text = some n ↔ run p text = n ∧ 0 < n := by
  unfold run?
  by_cases h : run p text = 0
  · simp only [h, if_true, reduceCtorEq, false_iff]
    omega
  · simp only [h, if_false, Option.some.injEq]
    omega

/-! ## The extent of each rule -/

/-- A comment takes its mark at least. -/
theorem comment_extent (h : comment text = some n) : 0 < n ∧ n ≤ text.length := by
  unfold comment at h
  split at h
  · next rest =>
    obtain rfl := Option.some.inj h
    have := run_le (· != '\n') rest
    simp only [List.length_cons]
    omega
  · cases h

/-- An IRI takes its two brackets at least. -/
theorem iri_extent (h : iri text = some n) : 0 < n ∧ n ≤ text.length := by
  unfold iri at h
  split at h
  · next rest =>
    dsimp only at h
    split at h
    · next closed =>
      obtain rfl := Option.some.inj h
      have := run_lt_of_head? closed
      simp only [List.length_cons]
      omega
    · cases h
  · cases h

/-- The last good end of a label lies between the one at hand and the end of the text. -/
theorem labelTail_extent (text : Text) {taken good : Nat} (h : good ≤ taken) :
    good ≤ labelTail text taken good ∧ labelTail text taken good ≤ taken + text.length := by
  induction text generalizing taken good with
  | nil => simp [labelTail, h]
  | cons c rest ih =>
    rw [labelTail, List.length_cons]
    split
    · have := ih (show good ≤ taken + 1 by omega)
      omega
    · split
      · have := ih (Nat.le_refl (taken + 1))
        omega
      · omega

/-- A blank label takes its mark at least. -/
theorem blankLabel_extent (h : blankLabel text = some n) : 0 < n ∧ n ≤ text.length := by
  unfold blankLabel at h
  split at h
  · next c rest =>
    split at h
    · obtain rfl := Option.some.inj h
      have := labelTail_extent rest (Nat.le_refl 3)
      simp only [List.length_cons]
      omega
    · cases h
  · cases h

/-- A namespace label is followed by its colon. -/
theorem namespaceLabel_extent (h : namespaceLabel text = some n) : n < text.length := by
  unfold namespaceLabel at h
  split at h
  · obtain rfl := Option.some.inj h
    simp
  · next c rest _ =>
    simp only at h
    split at h
    · split at h
      · next colon =>
        obtain rfl := Option.some.inj h
        have : (rest.takeWhile isLabelChar).length < rest.length :=
          run_lt_of_head? (of_decide_eq_true (Bool.and_eq_true_iff.mp colon).2)
        simp only [List.length_cons]
        omega
      · cases h
    · cases h
  · cases h

/-- The last good end of a local name lies between the one at hand and the end of the text. -/
theorem localName_extent (text : Text) {taken good : Nat} (h : good ≤ taken) :
    good ≤ localName text taken good ∧ localName text taken good ≤ taken + text.length := by
  fun_induction localName text taken good with
  | case1 a b rest taken good _ ih =>
    have := ih (Nat.le_refl _)
    simp only [List.length_cons]
    omega
  | case2 => simp only [List.length_cons]; omega
  | case3 c rest taken good _ ih =>
    have := ih (Nat.le_refl _)
    simp only [List.length_cons]
    omega
  | case4 => simp only [List.length_cons]; omega
  | case5 _ _ _ _ _ _ _ ih =>
    have := ih (Nat.le_refl _)
    simp only [List.length_cons]
    omega
  | case6 _ _ _ _ _ _ _ _ ih =>
    have := ih (Nat.le_refl _)
    simp only [List.length_cons]
    omega
  | case7 _ _ _ _ _ _ _ _ _ ih =>
    have := ih (by omega)
    simp only [List.length_cons]
    omega
  | case8 => simp only [List.length_cons]; omega
  | case9 => simp [h]

/-- A prefixed name takes its colon at least. -/
theorem prefixedName_extent (h : prefixedName text = some n) : 0 < n ∧ n ≤ text.length := by
  obtain ⟨label, found, rfl⟩ := Option.map_eq_some_iff.mp h
  have := namespaceLabel_extent found
  have := localName_extent (text.drop (label + 1)) (Nat.le_refl 0)
  rw [List.length_drop] at this
  omega

/-- A variable takes its mark at least. -/
theorem var_extent (h : var text = some n) : 0 < n ∧ n ≤ text.length := by
  unfold var at h
  split at h
  · next c rest =>
    split at h
    · obtain ⟨m, found, rfl⟩ := Option.map_eq_some_iff.mp h
      obtain ⟨rfl, -⟩ := run?_eq_some.mp found
      have := run_le Text.isWord rest
      simp only [List.length_cons]
      omega
    · cases h
  · cases h

/-- A bare word takes a letter at least. -/
theorem bareWord_extent (h : bareWord text = some n) : 0 < n ∧ n ≤ text.length := by
  unfold bareWord at h
  split at h
  · next c rest =>
    split at h
    · obtain rfl := Option.some.inj h
      have := run_le Text.isWord rest
      simp only [List.length_cons]
      omega
    · cases h
  · cases h

/-- A long string takes its three marks behind what was taken. -/
theorem longString_extent {mark : Char} {taken : Nat} (h : longString mark text taken = some n) :
    taken < n ∧ n ≤ taken + text.length := by
  fun_induction longString mark text taken with
  | case1 _ _ _ ih =>
    have := ih h
    simp only [List.length_cons]
    omega
  | case2 c rest taken _ closing =>
    obtain rfl := Option.some.inj h
    have := (List.isPrefixOf_iff_prefix.mp closing.2).length_le
    simp only [List.length_cons, List.length_nil] at this ⊢
    omega
  | case3 => cases h
  | case4 _ _ _ _ _ _ ih =>
    have := ih h
    simp only [List.length_cons]
    omega
  | case5 => cases h

/-- A short string takes its mark behind what was taken. -/
theorem shortString_extent {mark : Char} {taken : Nat} (h : shortString mark text taken = some n) :
    taken < n ∧ n ≤ taken + text.length := by
  fun_induction shortString mark text taken with
  | case1 => cases h
  | case2 _ _ _ _ ih =>
    have := ih h
    simp only [List.length_cons]
    omega
  | case3 =>
    obtain rfl := Option.some.inj h
    simp only [List.length_cons]
    omega
  | case4 => cases h
  | case5 _ _ _ _ _ _ ih =>
    have := ih h
    simp only [List.length_cons]
    omega
  | case6 => cases h

/-- A string takes its marks at least, whichever they are. -/
theorem stringIn_extent {mark : Char} {long : Bool} (h : stringIn mark long text = some n) :
    0 < n ∧ n ≤ text.length := by
  unfold stringIn at h
  split at h
  · split at h
    · next opening =>
      have := longString_extent h
      have := (List.isPrefixOf_iff_prefix.mp opening).length_le
      simp only [List.length_cons, List.length_nil, List.length_drop] at *
      omega
    · cases h
  · split at h
    · next opening =>
      have := shortString_extent h
      have : text ≠ [] := fun none => by simp [none] at opening
      have := List.length_pos_iff.mpr this
      rw [List.length_drop] at *
      omega
    · cases h

/-- A string takes its marks at least. -/
theorem string_extent (h : string text = some n) : 0 < n ∧ n ≤ text.length := by
  simp only [string, Option.or_eq_some_iff] at h
  rcases h with h | ⟨-, h | ⟨-, h | ⟨-, h⟩⟩⟩ <;> exact stringIn_extent h

/-- The last good end of the subtags lies between the one at hand and the end of the text. -/
theorem subtags_extent (text : Text) {taken good : Nat} (h : good ≤ taken) :
    good ≤ subtags text taken good ∧ subtags text taken good ≤ taken + text.length := by
  induction text generalizing taken good with
  | nil => simp [subtags, h]
  | cons c rest ih =>
    rw [subtags, List.length_cons]
    split
    · have := ih (show good ≤ taken + 1 by omega)
      omega
    · split
      · have := ih (Nat.le_refl (taken + 1))
        omega
      · omega

/-- A language tag stays inside the text. -/
theorem languageTag_extent (h : languageTag text = some n) : n ≤ text.length := by
  obtain ⟨m, found, rfl⟩ := Option.map_eq_some_iff.mp h
  obtain ⟨rfl, -⟩ := run?_eq_some.mp found
  have := run_le isLetter text
  have := (subtags_extent (text.drop (run isLetter text)) (Nat.le_refl 0)).2
  rw [List.length_drop] at this
  omega

/-- What annotates a literal stays inside the text. -/
theorem annotated_extent (h : annotated text = some n) : n ≤ text.length := by
  unfold annotated at h
  split at h
  · obtain ⟨m, found, rfl⟩ := Option.map_eq_some_iff.mp h
    have := languageTag_extent found
    simp only [List.length_cons]
    omega
  · obtain ⟨m, found, rfl⟩ := Option.map_eq_some_iff.mp h
    simp only [List.length_cons]
    rcases Option.or_eq_some_iff.mp found with found | ⟨-, found⟩
    · have := iri_extent found
      omega
    · have := prefixedName_extent found
      omega
  · cases h

/-- A quoted literal takes its marks at least. -/
theorem quotedLiteral_extent (h : quotedLiteral text = some n) : 0 < n ∧ n ≤ text.length := by
  obtain ⟨m, found, rfl⟩ := Option.map_eq_some_iff.mp h
  have := string_extent found
  cases tail : annotated (text.drop m) with
  | none => simpa using this
  | some k =>
    have := annotated_extent tail
    rw [List.length_drop] at this
    rw [Option.getD_some]
    omega

/-- An exponent stays inside the text; it may be empty. -/
theorem exponent_extent (h : exponent text = some n) : n ≤ text.length := by
  unfold exponent at h
  split at h
  · next e sign rest =>
    simp only [List.length_cons]
    split at h
    · cases h
    · split at h <;> obtain ⟨m, found, rfl⟩ := Option.map_eq_some_iff.mp h <;>
        obtain ⟨rfl, -⟩ := run?_eq_some.mp found
      · have := run_le Text.isDecimal rest
        omega
      · have := run_le Text.isDecimal (sign :: rest)
        rw [List.length_cons] at this
        omega
  · cases h

/-- A fraction takes its point at least. -/
theorem fraction_extent (h : fraction text = some n) : 0 < n ∧ n ≤ text.length := by
  unfold fraction at h
  split at h
  · next rest =>
    obtain ⟨m, found, rfl⟩ := Option.map_eq_some_iff.mp h
    obtain ⟨rfl, -⟩ := run?_eq_some.mp found
    have := run_le Text.isDecimal rest
    simp only [List.length_cons]
    omega
  · cases h

/-- A run that must not be empty takes a character. -/
theorem run?_extent (h : run? p text = some n) : 0 < n ∧ n ≤ text.length := by
  obtain ⟨rfl, pos⟩ := run?_eq_some.mp h
  exact ⟨pos, run_le p text⟩

theorem decimal_extent (h : decimal text = some n) : 0 < n ∧ n ≤ text.length := by
  obtain ⟨k, behind, rfl⟩ := Option.map_eq_some_iff.mp h
  have := run_le Text.isDecimal text
  have := fraction_extent behind
  rw [List.length_drop] at this
  omega

theorem pointed_extent (h : pointed text = some n) : 0 < n ∧ n ≤ text.length := by
  unfold pointed at h
  dsimp only at h
  split at h
  · next point =>
    obtain rfl := Option.some.inj h
    have := run_lt_of_head? point.2
    have := run_le Text.isDecimal (text.drop (run Text.isDecimal text + 1))
    rw [List.length_drop] at this
    omega
  · exact decimal_extent h

/-- A number with an exponent takes what its mantissa takes, at least. -/
theorem scaled_extent {mantissa : Text → Option Nat} (h : scaled mantissa text = some n)
    (extent : ∀ {k}, mantissa text = some k → 0 < k ∧ k ≤ text.length) : 0 < n ∧ n ≤ text.length := by
  obtain ⟨k, first, h⟩ := Option.bind_eq_some_iff.mp h
  obtain ⟨m, second, h⟩ := Option.bind_eq_some_iff.mp h
  obtain rfl := Option.some.inj h
  have := extent first
  have := exponent_extent second
  rw [List.length_drop] at this
  omega

/-- A number takes a digit at least. -/
theorem number_extent (h : number text = some n) : 0 < n ∧ n ≤ text.length := by
  simp only [number, Option.or_eq_some_iff] at h
  rcases h with h | ⟨-, h | ⟨-, h | ⟨-, h⟩⟩⟩
  · exact scaled_extent h pointed_extent
  · exact scaled_extent h run?_extent
  · exact decimal_extent h
  · exact run?_extent h

/-- A text that starts with a word is as long as the word. -/
theorem startsWith_length {word : Text} (h : startsWith word text = true) : word.length ≤ text.length := by
  induction word generalizing text with
  | nil => simp
  | cons w word ih =>
    cases text with
    | nil => cases h
    | cons c rest =>
      have := ih (Bool.and_eq_true_iff.mp h).2
      simpa using this

/-- A truth value takes its word. -/
theorem truthValue_extent {before : Option Char} (h : truthValue before text = some n) :
    0 < n ∧ n ≤ text.length := by
  obtain ⟨word, member, found⟩ := List.exists_of_findSome?_eq_some h
  split at found
  · next starts =>
    obtain rfl := Option.some.inj found
    have := startsWith_length (Bool.and_eq_true_iff.mp (Bool.and_eq_true_iff.mp starts).1).1
    refine ⟨?_, this⟩
    rcases List.mem_cons.mp member with rfl | member
    · decide
    · obtain rfl := List.mem_singleton.mp member
      decide
  · cases found

/-- A symbol is the beginning of the text. -/
theorem symbol_eq_some (h : symbol text = some n) :
    ∃ mark ∈ symbols, mark <+: text ∧ n = mark.length := by
  obtain ⟨mark, found, rfl⟩ := Option.map_eq_some_iff.mp h
  have starts := List.find?_some found
  exact ⟨mark, List.mem_of_find?_eq_some found, List.isPrefixOf_iff_prefix.mp starts, rfl⟩

/-- A symbol is one or two characters long. -/
theorem symbols_length : ∀ mark ∈ symbols, 0 < mark.length ∧ mark.length ≤ 2 := by
  decide

/-- A symbol takes a character and stays inside the text. -/
theorem symbol_extent (h : symbol text = some n) : 0 < n ∧ n ≤ text.length := by
  obtain ⟨mark, member, start, rfl⟩ := symbol_eq_some h
  exact ⟨(symbols_length mark member).1, start.length_le⟩

end Lexeme

namespace Scan

open Lexeme

variable {before : Option Char} {text : Text} {found : Class} {n : Nat}

/-- **The rule behind a lexeme.** -/
theorem lexeme?_cases (h : lexeme? before text = some (found, n)) :
    (found = .comment ∧ comment text = some n) ∨
    (found = .token .iri ∧ iri text = some n) ∨
    (found = .openIri ∧ n = 1 ∧ opensIri text = true) ∨
    (found = .token .literal ∧ (quotedLiteral text = some n ∨ number text = some n ∨
      truthValue before text = some n)) ∨
    (found = .token .prefixedName ∧ (blankLabel text = some n ∨ prefixedName text = some n)) ∨
    (found = .token .var ∧ var text = some n) ∨
    (found = .token .keyword ∧ bareWord text = some n) ∨
    (found = .token .punctuation ∧ symbol text = some n) := by
  simp only [lexeme?, Option.or_eq_some_iff, Option.map_eq_some_iff, Prod.mk.injEq] at h
  rcases h with ⟨_, rule, rfl, rfl⟩ | ⟨-, ⟨_, rule, rfl, rfl⟩ | ⟨-, h⟩⟩
  · exact .inl ⟨rfl, rule⟩
  · exact .inr (.inl ⟨rfl, rule⟩)
  rcases h with h | ⟨-, ⟨_, rule, rfl, rfl⟩ | ⟨-, ⟨_, rule, rfl, rfl⟩ | ⟨-, ⟨_, rule, rfl, rfl⟩ |
    ⟨-, ⟨_, rule, rfl, rfl⟩ | ⟨-, ⟨_, rule, rfl, rfl⟩ | ⟨-, ⟨_, rule, rfl, rfl⟩ |
    ⟨-, ⟨_, rule, rfl, rfl⟩ | ⟨-, ⟨_, rule, rfl, rfl⟩⟩⟩⟩⟩⟩⟩⟩⟩
  · split at h
    · next opens =>
      obtain ⟨rfl, rfl⟩ := Prod.mk.inj (Option.some.inj h)
      exact .inr (.inr (.inl ⟨rfl, rfl, opens⟩))
    · cases h
  all_goals simp [rule]

theorem opensIri_length (h : opensIri text = true) : 1 ≤ text.length := by
  cases text with
  | nil => cases h
  | cons c rest => simp

/-- **A lexeme is not empty and lies inside the text.** -/
theorem lexeme?_extent (h : lexeme? before text = some (found, n)) : 0 < n ∧ n ≤ text.length := by
  obtain ⟨-, h⟩ | ⟨-, h⟩ | ⟨-, rfl, opens⟩ | ⟨-, h | h | h⟩ | ⟨-, h | h⟩ | ⟨-, h⟩ | ⟨-, h⟩ | ⟨-, h⟩ :=
    lexeme?_cases h
  · exact comment_extent h
  · exact iri_extent h
  · exact ⟨Nat.one_pos, opensIri_length opens⟩
  · exact quotedLiteral_extent h
  · exact number_extent h
  · exact truthValue_extent h
  · exact blankLabel_extent h
  · exact prefixedName_extent h
  · exact var_extent h
  · exact bareWord_extent h
  · exact symbol_extent h

/-- Only the rule for comments finds a comment. -/
theorem lexeme?_comment (h : lexeme? before text = some (.comment, n)) : comment text = some n := by
  obtain ⟨-, h⟩ | ⟨h, -⟩ | ⟨h, -⟩ | ⟨h, -⟩ | ⟨h, -⟩ | ⟨h, -⟩ | ⟨h, -⟩ | ⟨h, -⟩ := lexeme?_cases h
  · exact h
  all_goals cases h

/-- No lexeme is the end of the text. -/
theorem lexeme?_kind {kind : Token.Kind} (h : lexeme? before text = some (.token kind, n)) : kind ≠ .eof := by
  rintro rfl
  obtain ⟨h, -⟩ | ⟨h, -⟩ | ⟨h, -⟩ | ⟨h, -⟩ | ⟨h, -⟩ | ⟨h, -⟩ | ⟨h, -⟩ | ⟨h, -⟩ := lexeme?_cases h <;>
    cases h

end Scan

end QuerySignature
