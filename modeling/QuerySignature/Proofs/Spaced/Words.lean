import QuerySignature.Proofs.Token.Ending

/-!
# Proofs/Spaced/Words — words between spaces

A word that the scanner has found is one between spaces too, of the same kind (`Scan.lexeme?_apart`), with two
exceptions.  A bare word that is a truth value is no literal next to a digit or a dollar sign, but it is between spaces
(`Token.apart`).  And a bare word may start with a truth value and go on with a letter that joins no truth value; between
spaces the scanner cuts it in two (`Token.Splits`).
-/

namespace QuerySignature

open Lexeme

/-! ## Bare words that are or hold a truth value -/

namespace Token

/-- **A keyword that is a truth value** where no other word is next to it. -/
def isTruth (token : Token) : Bool :=
  token.kind = .keyword && truthValue none token.text = some token.text.length

/-- **The token between spaces**: there a truth value is a literal. -/
def apart (token : Token) : Token :=
  if token.isTruth then { token with kind := .literal } else token

/-- **The word is cut in two between spaces**: it starts with a truth value, and what follows it joins no truth value. -/
def Splits (token : Token) : Prop :=
  token.kind = .keyword ∧ ∃ n < token.text.length, truthValue none token.text = some n

instance (token : Token) : Decidable token.Splits :=
  decidable_of_iff (token.kind = .keyword ∧ (truthValue none token.text).any (· < token.text.length) = true) <| by
    unfold Splits
    rw [Option.any_eq_true]
    simp only [decide_eq_true_eq]
    exact and_congr_right' ⟨fun ⟨n, found, less⟩ => ⟨n, less, found⟩, fun ⟨n, less, found⟩ => ⟨n, found, less⟩⟩

variable {token : Token}

theorem apart_of_isTruth (truth : token.isTruth = true) : token.apart = { token with kind := .literal } := if_pos truth

theorem apart_of_not (other : token.isTruth = false) : token.apart = token := by
  rw [apart, other]
  rfl

@[simp]
theorem apart_text (token : Token) : token.apart.text = token.text := by
  unfold apart
  split <;> rfl

theorem isTruth_kind (truth : token.isTruth = true) : token.kind = .keyword :=
  of_decide_eq_true (Bool.and_eq_true_iff.mp truth).1

theorem isTruth_text (truth : token.isTruth = true) : truthValue none token.text = some token.text.length :=
  of_decide_eq_true (Bool.and_eq_true_iff.mp truth).2

/-- A token of another kind is the same between spaces. -/
theorem apart_of_kind (other : token.kind ≠ .keyword) : token.apart = token :=
  apart_of_not (Bool.eq_false_iff.mpr fun truth => other (isTruth_kind truth))

end Token

/-! ## Gaps -/

/-- **What follows a word between spaces**: a space, or the bracket that ends the text. -/
def Gap (text : Text) : Prop :=
  (∃ rest, text = ' ' :: rest) ∨ text = [')']

variable {s x y : Text} {before before' : Option Char}

theorem Gap.stops (gap : Gap y) : Stops y := by
  obtain ⟨rest, rfl⟩ | rfl := gap
  · exact ⟨_, _, rfl, .inl rfl⟩
  · exact ⟨_, _, rfl, .inr rfl⟩

/-- **A bare word** is made of the characters of words, and none follows. -/
theorem Lexeme.bareWord_eq_length {c : Char} (h : bareWord (c :: (s ++ x)) = some (c :: s).length) :
    (Text.isWord c && !Text.isDecimal c) = true ∧ s.all Text.isWord = true ∧
      ∀ d, x.head? = some d → Text.isWord d = false := by
  rw [bareWord] at h
  split at h
  · next start =>
    have length := Option.some.inj h
    rw [List.length_cons, Nat.add_comm, Nat.succ_inj] at length
    exact ⟨start, run_eq_length.mp length⟩
  · cases h

/-- **A variable** is a mark and a name. -/
theorem Lexeme.var_eq_length {c : Char} (h : var (c :: (s ++ x)) = some (c :: s).length) :
    (c = '?' ∨ c = '$') ∧ run? Text.isWord (s ++ x) = some s.length := by
  by_cases mark : c = '?' ∨ c = '$'
  · rw [var, if_pos mark, Option.map_eq_some_iff] at h
    obtain ⟨n, found, length⟩ := h
    exact ⟨mark, Nat.succ.inj length ▸ found⟩
  · rw [var_of_ne mark] at h
    cases h

namespace Scan

/-- The label of a blank node ends in front of a stop. -/
theorem lexeme?_blankLabel_stop (stop : Stops y) (h : blankLabel (s ++ x) = some s.length) :
    lexeme? before (s ++ y) = some (.token .prefixedName, s.length) := by
  refine lexeme?_blankLabel ?_ before
  have label : y.head?.any isLabelChar = false := stop.head (by decide) (by decide)
  rw [blankLabel_stop label (stop.head?_ne (by decide) (by decide))]
  exact blankLabel_front h

/-- A variable ends in front of a stop. -/
theorem lexeme?_var_stop (stop : Stops y) (h : var (s ++ x) = some s.length) :
    lexeme? before (s ++ y) = some (.token .var, s.length) := by
  obtain ⟨c, name, rfl⟩ := List.exists_cons_of_length_pos (var_extent h).1
  obtain ⟨mark, found⟩ := var_eq_length h
  have found' : var (c :: (name ++ y)) = some (c :: name).length := by
    rw [var, if_pos mark, run?_stop name (stop.head (by decide) (by decide)), run?_front found (Nat.le_refl _)]
    rfl
  have plain : c ∉ ['#', '<', '"', '\'', '_'] ∧ c ≠ ':' ∧ (Text.isAlphanumeric c && !Text.isDecimal c) = false := by
    rcases mark with rfl | rfl <;> decide
  obtain ⟨none₁, none₂, none₃, none₄, none₅⟩ := early_none plain.1 (name ++ y)
  rw [List.cons_append, lexeme?, none₁, none₂, none₃, none₄, none₅, prefixedName_of_ne plain.2.1 plain.2.2, found']
  rfl

theorem mem_symbols (h : lexeme? before (s ++ x) = some (.token .punctuation, s.length)) : s ∈ symbols := by
  have rule : symbol (s ++ x) = some s.length := by simpa using lexeme?_cases h
  obtain ⟨mark, member, starts, length⟩ := symbol_eq_some rule
  have same : mark = s := by
    rw [List.prefix_iff_eq_take.mp starts, ← length, List.take_left]
  exact same ▸ member

/-- A symbol ends in front of a gap. -/
theorem lexeme?_symbol_gap (gap : Gap y) (member : s ∈ symbols) :
    lexeme? before (s ++ y) = some (.token .punctuation, s.length) := by
  have all : symbols.Forall fun s => lexeme? before (s ++ y) = some (.token .punctuation, s.length) := by
    rw [symbols]
    obtain ⟨rest, rfl⟩ | rfl := gap <;> repeat' first | exact rfl | apply And.intro
  exact List.forall_iff_forall_mem.mp all s member

/-- A bare word is one in front of a stop, or it starts with a truth value there. -/
theorem lexeme?_bareWord_stop (stop : Stops y) (free : before'.any joinsWord = false)
    (h : lexeme? before (s ++ x) = some (.token .keyword, s.length)) :
    lexeme? before' (s ++ y) =
      ((truthValue none s).map (Class.token .literal, ·)).or (some (.token .keyword, s.length)) := by
  obtain ⟨c, t, rfl⟩ := List.exists_cons_of_length_pos (lexeme?_extent h).1
  have rule : bareWord (c :: (t ++ x)) = some (c :: t).length := by simpa using lexeme?_cases h
  obtain ⟨start, others, -⟩ := bareWord_eq_length rule
  obtain ⟨word, letter⟩ := Bool.and_eq_true_iff.mp start
  have digit : Text.isDecimal c = false := (Bool.not_eq_true' _).mp letter
  have free_ {mark : Char} (other : Text.isWord mark = false) : c ≠ mark := by
    rintro rfl
    rw [word] at other
    cases other
  have label : blankLabel (c :: (t ++ y)) = none := by
    cases t with
    | nil =>
      obtain ⟨d, rest, rfl, rfl | rfl⟩ := stop <;> exact blankLabel_of_ne_colon (by decide) rest
    | cons d t =>
      refine blankLabel_of_ne_colon ?_ (t ++ y)
      rintro rfl
      exact absurd (Bool.and_eq_true_iff.mp others).1 (by decide)
  have none_ : comment (c :: (t ++ y)) = none ∧ iri (c :: (t ++ y)) = none ∧ opensIri (c :: (t ++ y)) = false := by
    refine ⟨?_, ?_, ?_⟩
    · rw [comment_cons, if_neg (free_ (by decide))]
    · rw [iri_cons, if_neg fun both => free_ (by decide) both.1]
    · rw [opensIri_cons, beq_false_of_ne (free_ (by decide)), Bool.false_and]
  have quoted : quotedLiteral (c :: (t ++ y)) = none := quotedLiteral_of_ne (free_ (by decide)) (free_ (by decide)) _
  have mark : var (c :: (t ++ y)) = none := var_of_ne (not_or.mpr ⟨free_ (by decide), free_ (by decide)⟩) _
  have numeral : number (c :: (t ++ y)) = none := number_of_ne digit (free_ (by decide)) _
  have name : prefixedName (c :: (t ++ y)) = none := prefixedName_none stop (prefixedName_eq_none h nofun) (List.cons_ne_nil c t)
  have truth : truthValue before' (c :: (t ++ y)) = truthValue none (c :: t) :=
    truthValue_stop (z := y) (stop.head (by decide) (by decide)) free (c :: t)
  have whole : bareWord (c :: (t ++ y)) = some (c :: t).length := by
    rw [bareWord, if_pos start, run_stop t (stop.head (by decide) (by decide)), run_whole others, Nat.add_comm]
    rfl
  rw [List.cons_append, lexeme?, none_.1, none_.2.1, none_.2.2, quoted, label, name, mark, numeral, truth, whole]
  cases truthValue none (c :: t) <;> rfl

/-- **A word that has been found is one between spaces**, unless it is cut in two there. -/
theorem lexeme?_apart {token : Token} (found : token.Found) (whole : ¬token.Splits) (gap : Gap y)
    (free : before.any joinsWord = false) :
    lexeme? before (token.text ++ y) = some (.token token.apart.kind, token.text.length) := by
  obtain ⟨front, rest, -, found⟩ := found
  have stop := gap.stops
  have same (other : token.kind ≠ .keyword) : token.apart.kind = token.kind :=
    congrArg Token.kind (Token.apart_of_kind other)
  cases kind : token.kind <;> rw [kind] at found
  case keyword =>
    rw [lexeme?_bareWord_stop stop free found]
    cases truth : truthValue none token.text with
    | none =>
      have other : token.isTruth = false := by
        rw [Token.isTruth, truth]
        exact Bool.and_false _
      rw [Token.apart_of_not other, kind]
      rfl
    | some n =>
      obtain rfl : n = token.text.length := by
        refine Nat.le_antisymm (truthValue_extent truth).2 (Nat.le_of_not_lt fun less => ?_)
        exact whole ⟨kind, n, less, truth⟩
      have is : token.isTruth = true := by
        rw [Token.isTruth, truth, kind, decide_eq_true rfl, decide_eq_true rfl]
        rfl
      rw [Token.apart_of_isTruth is]
      rfl
  case eof => exact absurd rfl (lexeme?_kind found)
  all_goals rw [same (by rw [kind]; decide), kind]
  case var => exact lexeme?_var_stop stop (by simpa using lexeme?_cases found)
  case iri => exact lexeme?_alone stop free (.inl rfl) nofun found
  case literal => exact lexeme?_alone stop free (.inr (.inr rfl)) nofun found
  case prefixedName =>
    by_cases mark : ['_', ':'].isPrefixOf token.text = true
    · exact lexeme?_blankLabel_stop stop (blankLabel_of_mark found mark)
    · exact lexeme?_alone stop free (.inr (.inl rfl)) (fun _ => (Bool.not_eq_true _).mp mark) found
  case punctuation =>
    exact lexeme?_symbol_gap gap (mem_symbols found)

end Scan

end QuerySignature
