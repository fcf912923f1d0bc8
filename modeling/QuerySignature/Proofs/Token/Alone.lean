import QuerySignature.Proofs.Token.Exchange
import QuerySignature.Proofs.Token.Words

/-!
# Proofs/Token/Alone — words in front of a blank or a bracket

A word that the scanner finds in front of some text it also finds in front of a blank or a closing bracket
(`Scan.lexeme?_alone`), so the words of a block may be written one by one into another one.  Behind a quotation
mark the search for three further marks must not go on into the new text: an empty string that is a word of
its own is followed by no third mark there.
-/

namespace QuerySignature

/-- **A text in front of which words end**: it starts with a space or a closing bracket. -/
def Stops (text : Text) : Prop :=
  ∃ c rest, text = c :: rest ∧ (c = ' ' ∨ c = ')')

variable {p : Char → Bool} {s x y : Text} {n : Nat}

/-- What runs neither over a space nor over a bracket stops there. -/
theorem Stops.head (h : Stops y) (space : p ' ' = false) (bracket : p ')' = false) : y.head?.any p = false := by
  obtain ⟨c, rest, rfl, rfl | rfl⟩ := h
  · exact space
  · exact bracket

/-- A stop begins with a space or a bracket, with no other character. -/
theorem Stops.head?_ne {c : Char} (h : Stops y) (space : c ≠ ' ') (bracket : c ≠ ')') : y.head? ≠ some c := by
  obtain ⟨d, rest, rfl, rfl | rfl⟩ := h
  · exact fun same => space (Option.some.inj same).symm
  · exact fun same => bracket (Option.some.inj same).symm

namespace Lexeme

/-! ## Runs -/

/-- A run that ends by the end of a text ends there in front of a stop. -/
theorem run_alone (h : run p (s ++ x) ≤ s.length) (stop : y.head?.any p = false) :
    run p (s ++ y) = run p (s ++ x) := by
  rw [run_stop s stop, run_front h]

/-- A run that ends inside a text ends there in front of any other. -/
theorem run_within (h : run p (s ++ x) < s.length) (y : Text) :
    run p (s ++ y) = run p (s ++ x) ∧ (s ++ y).take (run p (s ++ x)) = (s ++ x).take (run p (s ++ x)) ∧
      ((s ++ y).drop (run p (s ++ x))).head? = ((s ++ x).drop (run p (s ++ x))).head? := by
  have short : run p s = run p (s ++ x) := run_front (Nat.le_of_lt h)
  rw [← short] at h ⊢
  have some_ : s.drop (run p s) ≠ [] := by
    rw [ne_eq, List.drop_eq_nil_iff]
    omega
  refine ⟨run_inner h, ?_, ?_⟩
  · rw [List.take_append_of_le_length (Nat.le_of_lt h), List.take_append_of_le_length (Nat.le_of_lt h)]
  · rw [List.drop_append_of_le_length (Nat.le_of_lt h), List.drop_append_of_le_length (Nat.le_of_lt h),
      List.head?_append_of_ne_nil _ some_, List.head?_append_of_ne_nil _ some_]

/-! ## Names -/

/-- A closed IRI does not look behind itself. -/
theorem iri_alone (h : iri (s ++ x) = some s.length) (y : Text) : iri (s ++ y) = some s.length := by
  cases s with
  | nil =>
    have := (iri_extent h).1
    cases this
  | cons c s =>
    rw [List.cons_append, iri_cons] at h ⊢
    split at h
    · next closed =>
      have length := Option.some.inj h
      rw [List.length_cons] at length
      obtain ⟨same, -, head⟩ := run_within (p := isIriChar) (s := s) (x := x) (by omega) y
      rw [same, head, if_pos closed]
      exact h
    · cases h

/-- The label of a name that goes on is found whatever follows the name. -/
theorem namespaceLabel_alone (h : namespaceLabel (s ++ x) = some n) (inside : n < s.length) (y : Text) :
    namespaceLabel (s ++ y) = some n := by
  cases s with
  | nil => cases inside
  | cons c s =>
    by_cases colon : c = ':'
    · subst colon
      exact h
    · rw [List.cons_append, namespaceLabel_of_ne colon] at h ⊢
      split at h
      · next letter =>
        split at h
        · next label =>
          have length := Option.some.inj h
          rw [List.length_cons] at inside
          obtain ⟨same, front, head⟩ := run_within (p := isLabelChar) (s := s) (x := x) (by omega) y
          rw [if_pos letter, same, front, head, if_pos label]
          exact h
        · cases h
      · cases h

/-- A local name ends in front of a stop. -/
theorem localName_stop (stop : Stops y) (taken good : Nat) : localName y taken good = good := by
  obtain ⟨c, rest, rfl, rfl | rfl⟩ := stop
  · rw [localName_plain (by decide) (by decide), if_neg (by decide), if_neg (by simp), if_neg (by simp)]
  · rw [localName_plain (by decide) (by decide), if_neg (by decide), if_neg (by simp), if_neg (by simp)]

/-- A percent sequence adds three characters or none. -/
theorem localName_percent (z : Text) (taken good : Nat) :
    localName ('%' :: z) taken good = good ∨ taken + 3 ≤ localName ('%' :: z) taken good := by
  rcases z with _ | ⟨a, _ | ⟨b, z⟩⟩
  · exact .inl (by simp [localName, show Text.isWord '%' = false by decide])
  · exact .inl (by simp [localName, show Text.isWord '%' = false by decide])
  · rw [localName]
    split
    · exact .inr (localName_extent z (Nat.le_refl _)).1
    · exact .inl rfl

/-- A protected character adds two characters or none. -/
theorem localName_backslash (z : Text) (taken good : Nat) :
    localName ('\\' :: z) taken good = good ∨ taken + 2 ≤ localName ('\\' :: z) taken good := by
  rcases z with _ | ⟨c, z⟩
  · exact .inl (by simp [localName, show Text.isWord '\\' = false by decide])
  · rw [localName]
    split
    · exact .inr (localName_extent z (Nat.le_refl _)).1
    · exact .inl rfl

/-- A local name is what has been found already, or goes on. -/
theorem localName_or (text : Text) (taken good : Nat) :
    localName text taken good = good ∨ taken < localName text taken good := by
  induction text generalizing taken with
  | nil => exact .inl (by rw [localName])
  | cons c rest ih =>
    by_cases percent : c = '%'
    · subst percent
      exact (localName_percent rest taken good).imp_right fun far => by omega
    · by_cases backslash : c = '\\'
      · subst backslash
        exact (localName_backslash rest taken good).imp_right fun far => by omega
      · rw [localName_plain percent backslash]
        split
        · exact .inr (localName_extent rest (Nat.le_refl (taken + 1))).1
        · split
          · exact .inr (localName_extent rest (Nat.le_refl (taken + 1))).1
          · split
            · exact (ih (taken + 1)).imp_right fun far => by omega
            · exact .inl rfl

/-- **A local name is one in front of any text** that it cannot go on with. -/
theorem localName_alone (stop : ∀ taken good, localName y taken good = good) {taken good : Nat} (start : good ≤ taken)
    (h : localName (s ++ x) taken good = taken + s.length) : localName (s ++ y) taken good = taken + s.length := by
  fun_induction localName s taken good with
  | case1 a b rest taken good hex ih =>
    simp only [List.cons_append, localName, hex, if_true, List.length_cons] at h ⊢
    rw [show taken + (rest.length + 1 + 1 + 1) = taken + 3 + rest.length by omega] at h ⊢
    exact ih (Nat.le_refl _) h
  | case2 a b rest taken good hex =>
    simp only [List.cons_append, localName, hex, Bool.false_eq_true, if_false, List.length_cons] at h
    omega
  | case3 c rest taken good protection ih =>
    simp only [List.cons_append, localName, protection, if_true, List.length_cons] at h ⊢
    rw [show taken + (rest.length + 1 + 1) = taken + 2 + rest.length by omega] at h ⊢
    exact ih (Nat.le_refl _) h
  | case4 c rest taken good protection =>
    simp only [List.cons_append, localName, protection, Bool.false_eq_true, if_false, List.length_cons] at h
    omega
  | case5 c rest taken good _ _ name ih =>
    have percent : c ≠ '%' := by rintro rfl; exact absurd name (by decide)
    have backslash : c ≠ '\\' := by rintro rfl; exact absurd name (by decide)
    rw [List.cons_append, localName_plain percent backslash, if_pos name, List.length_cons,
      show taken + (rest.length + 1) = taken + 1 + rest.length by omega] at h ⊢
    exact ih (Nat.le_refl _) h
  | case6 c rest taken good _ _ name hyphen ih =>
    obtain ⟨rfl, more⟩ := hyphen
    rw [List.cons_append, localName_plain (by decide) (by decide), if_neg name, if_pos ⟨rfl, more⟩,
      List.length_cons, show taken + (rest.length + 1) = taken + 1 + rest.length by omega] at h ⊢
    exact ih (Nat.le_refl _) h
  | case7 c rest taken good _ _ name hyphen point ih =>
    obtain ⟨rfl, more⟩ := point
    rw [List.cons_append, localName_plain (by decide) (by decide), if_neg name, if_neg hyphen, if_pos ⟨rfl, more⟩,
      List.length_cons, show taken + (rest.length + 1) = taken + 1 + rest.length by omega] at h ⊢
    exact ih (Nat.le_succ_of_le start) h
  | case8 c rest taken good code escape name hyphen point =>
    exfalso
    rw [List.cons_append, List.length_cons] at h
    by_cases percent : c = '%'
    · subst percent
      have short : rest.length < 2 := by
        rcases rest with _ | ⟨a, _ | ⟨b, rest⟩⟩
        · exact Nat.two_pos
        · exact Nat.one_lt_two
        · exact absurd rfl (code a b rest rfl)
      rcases localName_percent (rest ++ x) taken good with same | far <;> omega
    · by_cases backslash : c = '\\'
      · subst backslash
        have none_ : rest = [] := by
          rcases rest with _ | ⟨d, rest⟩
          · rfl
          · exact absurd rfl (escape d rest rfl)
        rw [none_, List.length_nil] at h
        rcases localName_backslash ([] ++ x) taken good with same | far <;> omega
      · rw [localName_plain percent backslash, if_neg name, if_neg hyphen, if_neg point] at h
        omega
  | case9 taken good =>
    rw [List.nil_append, List.length_nil, Nat.add_zero] at h ⊢
    rw [stop]
    rcases localName_or x taken good with same | far <;> omega

/-- A whole prefixed name is read whole in front of a text that does not continue it. -/
theorem prefixedName_alone (stop : ∀ taken good, localName y taken good = good) (h : prefixedName (s ++ x) = some s.length) :
    prefixedName (s ++ y) = some s.length := by
  obtain ⟨label, found, length⟩ := Option.map_eq_some_iff.mp h
  have inside : label + 1 ≤ s.length := by omega
  rw [List.drop_append_of_le_length inside] at length
  have name : localName (s.drop (label + 1) ++ y) 0 0 = 0 + (s.drop (label + 1)).length :=
    localName_alone (x := x) stop (Nat.le_refl 0) (by rw [List.length_drop]; omega)
  rw [prefixedName, namespaceLabel_alone found (by omega), Option.map_some, List.drop_append_of_le_length inside,
    name, List.length_drop]
  congr 1
  omega

/-! ## Quoted literals -/

/-- Parts of a language tag are what has been found already, or go on. -/
theorem subtags_or (text : Text) (taken good : Nat) :
    subtags text taken good = good ∨ taken < subtags text taken good := by
  induction text generalizing taken with
  | nil => exact .inl rfl
  | cons c rest ih =>
    rw [subtags]
    split
    · exact (ih (taken + 1)).imp_right fun far => by omega
    · split
      · exact .inr (subtags_extent rest (Nat.le_refl (taken + 1))).1
      · exact .inl rfl

/-- Subtags that fill their text are read whole in front of a stop. -/
theorem subtags_alone (stop : Stops y) {taken good : Nat} (h : subtags (s ++ x) taken good = taken + s.length) :
    subtags (s ++ y) taken good = taken + s.length := by
  induction s generalizing taken good with
  | nil =>
    rw [List.nil_append, List.length_nil, Nat.add_zero] at h ⊢
    have ended : subtags y taken good = good := by
      obtain ⟨c, rest, rfl, rfl | rfl⟩ := stop <;> rw [subtags, if_neg (by simp), if_neg (by simp [isLetterOrDigit])]
    rw [ended]
    rcases subtags_or x taken good with same | far <;> omega
  | cons c s ih =>
    rw [List.cons_append, subtags, List.length_cons, show taken + (s.length + 1) = taken + 1 + s.length by omega]
      at h ⊢
    split at h
    · next hyphen =>
      rw [if_pos hyphen]
      exact ih h
    · next hyphen =>
      rw [if_neg hyphen]
      split at h
      · next letter =>
        rw [if_pos letter]
        exact ih h
      · next letter =>
        rw [if_neg letter]
        exact h

/-- A whole language tag is read whole in front of a stop. -/
theorem languageTag_alone (stop : Stops y) (h : languageTag (s ++ x) = some s.length) :
    languageTag (s ++ y) = some s.length := by
  obtain ⟨letters, found, length⟩ := Option.map_eq_some_iff.mp h
  obtain ⟨same, some_⟩ := run?_eq_some.mp found
  have inside : letters ≤ s.length := by omega
  rw [List.drop_append_of_le_length inside] at length
  have letters' : run? isLetter (s ++ y) = some letters := by
    rw [run?_eq_some, run_alone (same ▸ inside) (stop.head (by decide) (by decide))]
    exact ⟨same, some_⟩
  have further : subtags (s.drop letters ++ y) 0 0 = 0 + (s.drop letters).length :=
    subtags_alone (x := x) stop (by rw [List.length_drop]; omega)
  rw [languageTag, letters', Option.map_some, List.drop_append_of_le_length inside, further, List.length_drop]
  congr 1
  omega

/-- An annotation is not empty. -/
theorem annotated_pos (h : annotated s = some n) : 0 < n := by
  unfold annotated at h
  split at h
  · obtain ⟨m, -, rfl⟩ := Option.map_eq_some_iff.mp h
    exact Nat.succ_pos m
  · obtain ⟨m, -, rfl⟩ := Option.map_eq_some_iff.mp h
    exact Nat.succ_pos _
  · cases h

/-- An annotation starts with its mark. -/
theorem annotated_head (h : annotated s = some n) : s.head? = some '@' ∨ s.head? = some '^' := by
  unfold annotated at h
  split at h
  · exact .inl rfl
  · exact .inr rfl
  · cases h

/-- A datatype that is a name is no IRI. -/
theorem datatype_alone (stop : Stops y) (h : (iri (s ++ x)).or (prefixedName (s ++ x)) = some s.length) :
    (iri (s ++ y)).or (prefixedName (s ++ y)) = some s.length := by
  rcases Option.or_eq_some_iff.mp h with found | ⟨-, found⟩
  · rw [iri_alone found, Option.some_or]
  · have name := prefixedName_alone (localName_stop stop) found
    cases s with
    | nil => exact absurd (prefixedName_extent found).1 (Nat.lt_irrefl 0)
    | cons c s =>
      have bracket : c ≠ '<' := by
        rintro rfl
        rw [List.cons_append, prefixedName_of_ne (by decide) (by decide)] at found
        cases found
      rw [List.cons_append] at name ⊢
      rw [iri_cons, if_neg fun both => bracket both.1, Option.none_or, name]

/-- A whole annotation is read whole in front of a stop. -/
theorem annotated_alone (stop : Stops y) (h : annotated (s ++ x) = some s.length) :
    annotated (s ++ y) = some s.length := by
  rcases s with _ | ⟨c, s⟩
  · exact absurd (annotated_pos h) (Nat.lt_irrefl 0)
  by_cases tag : c = '@'
  · subst tag
    obtain ⟨m, found, length⟩ := Option.map_eq_some_iff.mp h
    obtain rfl : m = s.length := Nat.succ.inj length
    exact congrArg (Option.map (· + 1)) (languageTag_alone stop found)
  · rcases s with _ | ⟨d, s⟩
    · unfold annotated at h
      split at h
      · next whole => exact absurd (List.cons.inj whole).1 tag
      · obtain ⟨m, -, length⟩ := Option.map_eq_some_iff.mp h
        cases length
      · cases h
    · by_cases carets : c = '^' ∧ d = '^'
      · obtain ⟨rfl, rfl⟩ := carets
        obtain ⟨m, found, length⟩ := Option.map_eq_some_iff.mp h
        obtain rfl : m = s.length := Nat.succ.inj (Nat.succ.inj length)
        exact congrArg (Option.map (· + 2)) (datatype_alone stop found)
      · have none_ : annotated (c :: d :: (s ++ x)) = none := by
          by_cases first : c = '^'
          · exact annotated_of_ne_caret tag (fun second => carets ⟨first, second⟩) _
          · exact annotated_of_ne tag first _
        cases none_.symm.trans h

/-- An empty string is no long one, if no third mark follows. -/
theorem stringIn_short {mark : Char} (plain : mark ≠ '\\') (h : stringIn mark false (s ++ x) = some n)
    (inside : n ≤ s.length) (next : (s.drop n ++ y).head? ≠ some mark) : stringIn mark true (s ++ y) = none := by
  simp only [stringIn, if_true, Bool.false_eq_true, if_false] at h ⊢
  split at h
  · next opening =>
    refine if_neg fun marks => ?_
    have far := (shortString_extent h).1
    rcases s with _ | ⟨a, _ | ⟨b, s⟩⟩
    · exact absurd inside (by simp; omega)
    · exact absurd inside (by simp; omega)
    · obtain ⟨rest, whole⟩ := List.isPrefixOf_iff_prefix.mp marks
      simp only [List.cons_append, List.nil_append, List.cons.injEq] at whole
      obtain ⟨-, rfl, whole⟩ := whole
      rw [List.cons_append, List.drop_succ_cons, List.drop_zero, List.cons_append, shortString_plain plain,
        if_pos rfl] at h
      obtain rfl := Option.some.inj h
      apply next
      rw [List.drop_succ_cons, List.drop_succ_cons, List.drop_zero, ← whole]
      rfl
  · cases h

/-- What is no annotation is nothing, and an annotation is one in front of a stop; neither starts with a mark. -/
theorem annotation_alone (stop : Stops y) (h : (annotated (s ++ x)).getD 0 = s.length) :
    (annotated (s ++ y)).getD 0 = s.length ∧ ∀ mark, mark = '"' ∨ mark = '\'' → (s ++ y).head? ≠ some mark := by
  cases found : annotated (s ++ x) with
  | none =>
    rw [found, Option.getD_none] at h
    obtain rfl := List.length_eq_zero_iff.mp h.symm
    obtain ⟨c, rest, rfl, rfl | rfl⟩ := stop
    · refine ⟨by rw [List.nil_append, annotated_of_ne (by decide) (by decide)]; rfl, ?_⟩
      rintro mark (rfl | rfl) <;> simp
    · refine ⟨by rw [List.nil_append, annotated_of_ne (by decide) (by decide)]; rfl, ?_⟩
      rintro mark (rfl | rfl) <;> simp
  | some k =>
    rw [found, Option.getD_some] at h
    subst h
    have alone := annotated_alone stop found
    refine ⟨by rw [alone, Option.getD_some], ?_⟩
    rintro mark marks same
    rcases annotated_head alone with first | first <;> rw [first] at same <;> obtain rfl := Option.some.inj same <;>
      revert marks <;> decide

/-- **A string that no further mark follows** is one whatever else follows. -/
theorem string_alone (h : string (s ++ x) = some n) (inside : n ≤ s.length)
    (next : ∀ mark, mark = '"' ∨ mark = '\'' → (s.drop n ++ y).head? ≠ some mark) : string (s ++ y) = some n := by
  have double : '"' ≠ '\\' := by decide
  have single : '\'' ≠ '\\' := by decide
  obtain ⟨c, t, whole⟩ : ∃ c t, s = c :: t := by
    have := (string_extent h).1
    exact List.exists_cons_of_length_pos (by omega)
  have other {mark : Char} (h : c ≠ mark) (long : Bool) : stringIn mark long (s ++ y) = none := by
    rw [whole, List.cons_append, stringIn_of_ne h]
  have head {mark : Char} {long : Bool} (h : stringIn mark long (s ++ x) = some n) : c = mark := by
    by_contra no
    rw [whole, List.cons_append, stringIn_of_ne no] at h
    cases h
  simp only [string, Option.or_eq_some_iff] at h ⊢
  rcases h with h | ⟨-, h | ⟨-, h | ⟨-, h⟩⟩⟩
  · exact .inl (stringIn_inside double h inside y)
  · exact .inr ⟨other (by rw [head h]; decide) true, .inl (stringIn_inside single h inside y)⟩
  · exact .inr ⟨stringIn_short double h inside (next _ (.inl rfl)), .inr
      ⟨other (by rw [head h]; decide) true, .inl (stringIn_inside double h inside y)⟩⟩
  · exact .inr ⟨other (by rw [head h]; decide) true, .inr ⟨stringIn_short single h inside (next _ (.inr rfl)),
      .inr ⟨other (by rw [head h]; decide) false, stringIn_inside single h inside y⟩⟩⟩

/-- **A quoted literal is one in front of a stop.** -/
theorem quotedLiteral_alone (stop : Stops y) (h : quotedLiteral (s ++ x) = some s.length) :
    quotedLiteral (s ++ y) = some s.length := by
  obtain ⟨n, found, length⟩ := Option.map_eq_some_iff.mp h
  have inside : n ≤ s.length := by omega
  rw [List.drop_append_of_le_length inside] at length
  obtain ⟨same, next⟩ := annotation_alone (s := s.drop n) (x := x) stop (by rw [List.length_drop]; omega)
  rw [quotedLiteral, string_alone found inside next, Option.map_some, List.drop_append_of_le_length inside, same,
    List.length_drop]
  congr 1
  omega

/-! ## Truth values -/

/-- Whether a text starts with a shorter word does not depend on what follows. -/
theorem startsWith_append {word : Text} (h : word.length ≤ s.length) (x : Text) :
    startsWith word (s ++ x) = startsWith word s := by
  induction word generalizing s with
  | nil => cases s <;> rfl
  | cons w word ih =>
    rcases s with _ | ⟨c, s⟩
    · cases h
    · rw [List.cons_append, startsWith, startsWith, ih (Nat.le_of_succ_le_succ h)]

/-- No text starts with both words. -/
theorem startsWith_other {word word' text : Text} (h : startsWith ('F' :: word) text = true) :
    startsWith ('T' :: word') text = false := by
  rcases text with _ | ⟨c, text⟩
  · rfl
  · have upper : c.toUpper = 'F' := by simpa [startsWith] using (Bool.and_eq_true_iff.mp h).1
    simp [startsWith, upper]

/-- A truth value is read whole where no letter stands next to it. -/
theorem truthValue_alone {before before' : Option Char} (stop : y.head?.any joinsWord = false)
    (free : before'.any joinsWord = false)
    (h : truthValue before (s ++ x) = some s.length) : truthValue before' (s ++ y) = some s.length := by
  have holds {word : Text} (length : word.length = s.length)
      (h : (startsWith word (s ++ x) && !before.any joinsWord
        && !((s ++ x).drop word.length).head?.any joinsWord) = true) :
      (startsWith word (s ++ y) && !before'.any joinsWord
        && !((s ++ y).drop word.length).head?.any joinsWord) = true := by
    have starts := (Bool.and_eq_true_iff.mp (Bool.and_eq_true_iff.mp h).1).1
    rw [startsWith_append (Nat.le_of_eq length)] at starts
    rw [startsWith_append (Nat.le_of_eq length), starts, free, length, List.drop_left, stop]
    rfl
  simp only [truthValue, List.findSome?_cons, List.findSome?_nil] at h ⊢
  split at h
  · next found =>
    split at found
    · next true_ =>
      have length := Option.some.inj (found.trans h)
      rw [if_pos (holds length true_), length]
    · cases found
  · split at h
    · next found =>
      split at found
      · next false_ =>
        have length := Option.some.inj (found.trans h)
        have both := holds length false_
        have other : startsWith "TRUE".toList (s ++ y) = false :=
          startsWith_other (Bool.and_eq_true_iff.mp (Bool.and_eq_true_iff.mp both).1).1
        rw [other, if_neg (by simp), if_pos both, length]
      · cases found
    · cases h

end Lexeme

/-! ## Words -/

namespace Scan

open Lexeme

variable {before before' : Option Char}

/-- No rule that comes first takes a text that starts with a character of a name. -/
theorem early_none {c : Char} (plain : c ∉ ['#', '<', '"', '\'', '_']) (rest : Text) :
    comment (c :: rest) = none ∧ iri (c :: rest) = none ∧ opensIri (c :: rest) = false ∧
      quotedLiteral (c :: rest) = none ∧ blankLabel (c :: rest) = none := by
  simp only [List.mem_cons, List.not_mem_nil, or_false, not_or] at plain
  obtain ⟨hash, angle, double, single, line⟩ := plain
  refine ⟨?_, ?_, ?_, quotedLiteral_of_ne double single rest, blankLabel_of_ne line rest⟩
  · rw [comment_cons, if_neg hash]
  · rw [iri_cons, if_neg fun both => angle both.1]
  · rw [opensIri_cons, beq_false_of_ne angle, Bool.false_and]

/-- What the rule for IRIs reads is a token at once: no rule stands before it at a bracket. -/
theorem lexeme?_iri {text : Text} {n : Nat} (h : iri text = some n) (before : Option Char) :
    lexeme? before text = some (.token .iri, n) := by
  cases text with
  | nil => cases h
  | cons c rest =>
    rw [iri_cons] at h
    split at h
    · next closed =>
      have none_ : comment (c :: rest) = none := by
        rw [comment_cons, if_neg (by rw [closed.1]; decide)]
      have found : iri (c :: rest) = some n := by rwa [iri_cons, if_pos closed]
      rw [lexeme?, none_, found]
      rfl
    · cases h

/-- What the rule for prefixed names reads is a token, behind none of the marks of earlier rules. -/
theorem lexeme?_prefixedName {c : Char} {rest : Text} {n : Nat} (plain : c ∉ ['#', '<', '"', '\'', '_'])
    (h : prefixedName (c :: rest) = some n) (before : Option Char) :
    lexeme? before (c :: rest) = some (.token .prefixedName, n) := by
  obtain ⟨none₁, none₂, none₃, none₄, none₅⟩ := early_none plain rest
  rw [lexeme?, none₁, none₂, none₃, none₄, none₅, h]
  rfl

/-- The first character of a name under a namespace. -/
theorem prefixedName_head {c : Char} {rest : Text} {n : Nat} (h : prefixedName (c :: rest) = some n) :
    c = ':' ∨ (Text.isAlphanumeric c && !Text.isDecimal c) = true := by
  by_contra other
  rw [not_or, Bool.not_eq_true] at other
  rw [prefixedName_of_ne other.1 other.2] at h
  cases h

/-- The label of a blank node starts with its mark. -/
theorem blankLabel_mark {text : Text} {n : Nat} (h : blankLabel text = some n) :
    ['_', ':'].isPrefixOf text = true ∧ 2 ≤ n := by
  unfold blankLabel at h
  split at h
  · next c rest =>
    split at h
    · obtain rfl := Option.some.inj h
      exact ⟨rfl, Nat.le_trans (Nat.le_succ 2) (labelTail_extent rest (Nat.le_refl 3)).1⟩
    · cases h
  · cases h

/-- A colon or a letter is no mark of an earlier rule. -/
theorem plain_of_letter {c : Char} (h : c = ':' ∨ (Text.isAlphanumeric c && !Text.isDecimal c) = true) :
    c ∉ ['#', '<', '"', '\'', '_'] := by
  intro member
  have none_ : ['#', '<', '"', '\'', '_'].all (fun c => !(Text.isAlphanumeric c && !Text.isDecimal c)) = true := rfl
  rcases h with rfl | letter
  · exact absurd member (by decide)
  · have other := List.all_eq_true.mp none_ c member
    rw [letter] at other
    cases other

/-- What the rule for numbers reads is a literal. -/
theorem lexeme?_number {c : Char} {rest : Text} {n : Nat} (h : number (c :: rest) = some n)
    (before : Option Char) : lexeme? before (c :: rest) = some (.token .literal, n) := by
  have head : Text.isDecimal c = true ∨ c = '.' := by
    by_contra other
    rw [not_or, Bool.not_eq_true] at other
    rw [number_of_ne other.1 other.2] at h
    cases h
  have free {mark : Char} (plain : Text.isDecimal mark = false) (point : mark ≠ '.') : c ≠ mark := by
    rintro rfl
    rcases head with digit | same
    · rw [plain] at digit
      cases digit
    · exact point same
  have letter : (Text.isAlphanumeric c && !Text.isDecimal c) = false := by
    rcases head with digit | rfl
    · rw [digit, Bool.not_true, Bool.and_false]
    · decide
  have plain : c ∉ ['#', '<', '"', '\'', '_'] := by
    simp only [List.mem_cons, List.not_mem_nil, or_false, not_or]
    refine ⟨free ?_ ?_, free ?_ ?_, free ?_ ?_, free ?_ ?_, free ?_ ?_⟩ <;> decide
  have mark : ¬(c = '?' ∨ c = '$') :=
    not_or.mpr ⟨free (by decide) (by decide), free (by decide) (by decide)⟩
  obtain ⟨none₁, none₂, none₃, none₄, none₅⟩ := early_none plain rest
  rw [lexeme?, none₁, none₂, none₃, none₄, none₅, prefixedName_of_ne (free (by decide) (by decide)) letter,
    var_of_ne mark, h]
  rfl

/-- A truth value that is no prefixed name is a literal. -/
theorem lexeme?_truthValue {c : Char} {rest : Text} {n : Nat} (h : truthValue before (c :: rest) = some n)
    (free : prefixedName (c :: rest) = none) : lexeme? before (c :: rest) = some (.token .literal, n) := by
  have other {mark : Char} (t : mark.toUpper ≠ 'T') (f : mark.toUpper ≠ 'F') : c ≠ mark := by
    rintro rfl
    rw [truthValue_of_ne t f] at h
    cases h
  have digit : Text.isDecimal c = false := by
    by_contra digit
    rw [Bool.not_eq_false] at digit
    have same := toUpper_of_isDigit (Text.isDigit_of_isDecimal digit)
    refine @other c ?_ ?_ rfl <;> rw [same] <;> rintro rfl <;> revert digit <;> decide
  have plain : c ∉ ['#', '<', '"', '\'', '_'] := by
    simp only [List.mem_cons, List.not_mem_nil, or_false, not_or]
    refine ⟨other ?_ ?_, other ?_ ?_, other ?_ ?_, other ?_ ?_, other ?_ ?_⟩ <;> decide
  have mark : ¬(c = '?' ∨ c = '$') :=
    not_or.mpr ⟨other (by decide) (by decide), other (by decide) (by decide)⟩
  obtain ⟨none₁, none₂, none₃, none₄, none₅⟩ := early_none plain rest
  rw [lexeme?, none₁, none₂, none₃, none₄, none₅, free, var_of_ne mark,
    number_of_ne digit (other (by decide) (by decide)), h]
  rfl

/-- A text that starts with another lexeme starts with no name. -/
theorem prefixedName_eq_none {found : Class} (h : lexeme? before s = some (found, n))
    (other : found ≠ .token .prefixedName) : prefixedName s = none := by
  by_contra name
  obtain ⟨n, name⟩ := Option.ne_none_iff_exists'.mp name
  cases s with
  | nil => cases name
  | cons c t =>
    rw [lexeme?_prefixedName (plain_of_letter (prefixedName_head name)) name] at h
    exact other (Prod.mk.inj (Option.some.inj h)).1.symm

/-- A text that starts with no name in front of one text starts with none in front of a stop. -/
theorem prefixedName_none (stop : Stops y) (h : prefixedName (s ++ x) = none) (some_ : s ≠ []) :
    prefixedName (s ++ y) = none := by
  rw [prefixedName, Option.map_eq_none_iff] at h ⊢
  by_contra label
  obtain ⟨n, label⟩ := Option.ne_none_iff_exists'.mp label
  obtain ⟨c, t, rfl⟩ := List.exists_cons_of_ne_nil some_
  have inside : n < (c :: t).length := by
    have colon := namespaceLabel_colon label
    by_cases first : c = ':'
    · subst first
      rw [← Option.some.inj (label : some 0 = some n)]
      exact Nat.succ_pos _
    · rw [List.cons_append, namespaceLabel_of_ne first] at label
      split at label
      · split at label
        · obtain rfl := Option.some.inj label
          have short : run isLabelChar (t ++ y) ≤ t.length := by
            rw [run_stop t (stop.head (by decide) (by decide))]
            exact run_le _ _
          rcases Nat.lt_or_eq_of_le short with inner | whole
          · rw [List.length_cons]
            omega
          · rw [List.cons_append, List.getElem?_cons_succ, whole, List.getElem?_append_right (Nat.le_refl _),
              Nat.sub_self, ← List.head?_eq_getElem?] at colon
            exact absurd colon (stop.head?_ne (by decide) (by decide))
        · cases label
      · cases label
  rw [namespaceLabel_alone label inside x] at h
  cases h

/-- **A name under a namespace is one in front of any text** that it cannot go on with. -/
theorem lexeme?_name (stop : ∀ taken good, localName y taken good = good) (label : ['_', ':'].isPrefixOf s = false)
    (h : lexeme? before (s ++ x) = some (.token .prefixedName, s.length)) :
    lexeme? before' (s ++ y) = some (.token .prefixedName, s.length) := by
  have rule : blankLabel (s ++ x) = some s.length ∨ prefixedName (s ++ x) = some s.length := by
    simpa using lexeme?_cases h
  rcases rule with blank | name
  · obtain ⟨mark, far⟩ := blankLabel_mark blank
    rw [@isPrefixOf_append ['_', ':'] s far, label] at mark
    cases mark
  · obtain ⟨c, t, rfl⟩ := List.exists_cons_of_length_pos (lexeme?_extent h).1
    exact lexeme?_prefixedName (plain_of_letter (prefixedName_head name)) (prefixedName_alone stop name) before'

/-- **A word is one in front of a stop**: an IRI, a name under a namespace or a literal. -/
theorem lexeme?_alone {kind : Token.Kind} (stop : Stops y) (free : before'.any joinsWord = false)
    (term : kind = .iri ∨ kind = .prefixedName ∨ kind = .literal)
    (label : kind = .prefixedName → ['_', ':'].isPrefixOf s = false)
    (h : lexeme? before (s ++ x) = some (.token kind, s.length)) :
    lexeme? before' (s ++ y) = some (.token kind, s.length) := by
  obtain ⟨c, t, rfl⟩ := List.exists_cons_of_length_pos (lexeme?_extent h).1
  have rules := lexeme?_cases h
  rcases term with rfl | rfl | rfl
  · have rule : iri (c :: t ++ x) = some (c :: t).length := by simpa using rules
    exact lexeme?_iri (iri_alone rule y) _
  · exact lexeme?_name (localName_stop stop) (label rfl) h
  · have rule : quotedLiteral (c :: t ++ x) = some (c :: t).length ∨ number (c :: t ++ x) = some (c :: t).length ∨
        truthValue before (c :: t ++ x) = some (c :: t).length := by
      simpa using rules
    rcases rule with quoted | numeral | truth
    · have quote : c = '"' ∨ c = '\'' := by
        by_contra other
        rw [List.cons_append, quotedLiteral_of_ne (not_or.mp other).1 (not_or.mp other).2] at quoted
        cases quoted
      rw [List.cons_append, lexeme?_quote quote, ← List.cons_append, quotedLiteral_alone stop quoted]
      rfl
    · have found : number (c :: t ++ y) = some (c :: t).length := by
        rw [number_stop (stop.head (by decide) (by decide))]
        exact number_alone numeral
      exact lexeme?_number found _
    · have none_ : prefixedName (c :: t ++ x) = none := prefixedName_eq_none h nofun
      exact lexeme?_truthValue (truthValue_alone (stop.head (by decide) (by decide)) free truth)
        (prefixedName_none stop none_ (List.cons_ne_nil c t))

end Scan

end QuerySignature
