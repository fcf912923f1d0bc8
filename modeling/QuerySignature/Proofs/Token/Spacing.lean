import QuerySignature.Proofs.Token.Unclosed

/-!
# Proofs/Token/Spacing — words in front of white space

No word goes on over white space, so what the scanner finds in front of white space, or at the end of a text, does
not depend on what stands behind.  Three rules look further: an IRI may hold white space that is no space and no
control, an angle bracket is no IRI only if the rest of the text says so, and three marks open a long string if
three more follow anywhere.  `Spacing` says of two texts what these rules need; the main statement is
`Scan.lexeme?_spacing`.
-/

namespace QuerySignature

/-! ## White space -/

/-- The characters of white space. -/
def Text.blanks : List Char :=
  blankRanges.flatMap fun range => (List.range' range.first (range.2 + 1 - range.first)).map Char.ofNat

/-- The listed blanks are all there are. -/
theorem Text.mem_blanks {c : Char} (h : isBlank c = true) : c ∈ blanks := by
  obtain ⟨range, member, inside⟩ := List.any_eq_true.mp h
  obtain ⟨low, high⟩ := (Bool.and_eq_true _ _).mp inside
  have low := of_decide_eq_true low
  have high := of_decide_eq_true high
  refine List.mem_flatMap.mpr ⟨range, member, List.mem_map.mpr ⟨c.toNat, ?_, Char.ofNat_toNat c⟩⟩
  rw [List.mem_range'_1]
  change range.1 ≤ c.toNat at low
  change range.1 ≤ c.toNat ∧ c.toNat < range.1 + (range.2 + 1 - range.1)
  omega

/-- The character is part of a word, or of a number behind its digits. -/
def Text.isPart (c : Char) : Bool :=
  isWord c || c.isAlphanum || Lexeme.joinsWord c || Lexeme.continuesNumber c || Lexeme.isHex c || c.toUpper != c

/-- No character of white space is part of a word or of a number. -/
theorem Text.any_isPart_blanks : blanks.any isPart = false := by decide +kernel

namespace Text

variable {c d : Char} (blank : isBlank c = true)
include blank

/-- White space is no other character. -/
theorem ne_of_blank (dark : isBlank d = false) : c ≠ d := by
  rintro rfl
  rw [blank] at dark
  cases dark

/-- A blank is a part of nothing that a rule runs over, and has no upper case. -/
theorem not_isPart_of_blank : isWord c = false ∧ Lexeme.isLetterOrDigit c = false ∧ Lexeme.joinsWord c = false ∧
    Lexeme.continuesNumber c = false ∧ Lexeme.isHex c = false ∧ c.toUpper = c := by
  have none_ := List.any_eq_false.mp any_isPart_blanks c (mem_blanks blank)
  simpa [isPart, Lexeme.isLetterOrDigit, and_assoc] using none_

theorem not_isWord_of_blank : isWord c = false := (not_isPart_of_blank blank).1

theorem not_isAlphanumeric_of_blank : isAlphanumeric c = false :=
  (Bool.or_eq_false_iff.mp (not_isWord_of_blank blank)).2

theorem not_isLetterOrDigit_of_blank : Lexeme.isLetterOrDigit c = false := (not_isPart_of_blank blank).2.1

theorem not_isLetter_of_blank : Lexeme.isLetter c = false :=
  (Bool.or_eq_false_iff.mp (not_isLetterOrDigit_of_blank blank)).1

theorem not_joinsWord_of_blank : Lexeme.joinsWord c = false := (not_isPart_of_blank blank).2.2.1

theorem not_continuesNumber_of_blank : Lexeme.continuesNumber c = false := (not_isPart_of_blank blank).2.2.2.1

theorem not_isHex_of_blank : Lexeme.isHex c = false := (not_isPart_of_blank blank).2.2.2.2.1

theorem toUpper_of_blank : c.toUpper = c := (not_isPart_of_blank blank).2.2.2.2.2

/-- White space is in no text without it. -/
theorem not_mem_of_blank {text : Text} (dark : text.any isBlank = false) : c ∉ text :=
  fun inside => List.any_eq_false.mp dark c inside blank

/-- A blank cannot be protected by a backslash. -/
theorem not_isProtected_of_blank : Lexeme.isProtected c = false := by
  have dark : "_~.-!$&'()*+,;=/?#@%".toList.any isBlank = false := by decide
  exact Bool.eq_false_iff.mpr fun inside => not_mem_of_blank blank dark (List.contains_iff_mem.mp inside)

end Text

/-- White space that ends an IRI too: spaces, tabs and line ends. -/
def Text.isPlainBlank (c : Char) : Bool :=
  c == ' ' || c == '\t' || c == '\r' || c == '\n'

/-- A plain blank is a blank. -/
theorem Text.isBlank_of_isPlainBlank {c : Char} (h : isPlainBlank c = true) : isBlank c = true := by
  simp only [isPlainBlank, Bool.or_eq_true, beq_iff_eq] at h
  obtain ((rfl | rfl) | rfl) | rfl := h <;> decide

namespace Lexeme

variable {p : Char → Bool} {s z z' : Text} {n : Nat}

/-- **A text in front of which words end**: it is empty, or starts with white space. -/
def Parted (z : Text) : Prop :=
  z.head?.all Text.isBlank = true

namespace Parted

/-- A parted text is empty or begins with a blank. -/
theorem cases (h : Parted z) : z = [] ∨ ∃ c rest, z = c :: rest ∧ Text.isBlank c = true := by
  cases z with
  | nil => exact .inl rfl
  | cons c rest => exact .inr ⟨c, rest, rfl, h⟩

/-- A predicate that holds of no white space does not hold there. -/
theorem any (h : Parted z) (never : ∀ {c}, Text.isBlank c = true → p c = false) : z.head?.any p = false := by
  obtain rfl | ⟨c, rest, rfl, blank⟩ := h.cases
  · rfl
  · exact never blank

/-- A parted text begins with no dark character. -/
theorem head?_ne (h : Parted z) {c : Char} (dark : Text.isBlank c = false) : z.head? ≠ some c := by
  obtain rfl | ⟨d, rest, rfl, blank⟩ := h.cases
  · exact fun same => nomatch same
  · exact fun same => Text.ne_of_blank blank dark (Option.some.inj same)

end Parted

theorem not_isLabelChar_of_blank {c : Char} (blank : Text.isBlank c = true) : isLabelChar c = false := by
  have point : c ≠ '.' := Text.ne_of_blank blank (by decide)
  have hyphen : c ≠ '-' := Text.ne_of_blank blank (by decide)
  rw [isLabelChar, Text.not_isWord_of_blank blank, beq_false_of_ne point, beq_false_of_ne hyphen]
  rfl

theorem not_isSchemeChar_of_blank {c : Char} (blank : Text.isBlank c = true) : isSchemeChar c = false := by
  have plus : c ≠ '+' := Text.ne_of_blank blank (by decide)
  have point : c ≠ '.' := Text.ne_of_blank blank (by decide)
  have hyphen : c ≠ '-' := Text.ne_of_blank blank (by decide)
  rw [isSchemeChar, Text.not_isWord_of_blank blank, beq_false_of_ne plus, beq_false_of_ne point,
    beq_false_of_ne hyphen]
  rfl

/-- A character that may go on a truth value. -/
def continuesTruth (c : Char) : Bool :=
  joinsWord c || c.toUpper != c

theorem not_continuesTruth_of_blank {c : Char} (blank : Text.isBlank c = true) : continuesTruth c = false := by
  rw [continuesTruth, Text.not_joinsWord_of_blank blank, Text.toUpper_of_blank blank, bne_self_eq_false]
  rfl

/-! ## Names -/

/-- A label ends in front of a text that does not continue it. -/
theorem labelTail_stop (stop : z.head?.any isLabelChar = false) (s : Text) (taken good : Nat) :
    labelTail (s ++ z) taken good = labelTail s taken good := by
  induction s generalizing taken good with
  | nil =>
    cases z with
    | nil => rfl
    | cons c rest =>
      have other : isLabelChar c = false := stop
      have point : c ≠ '.' := by
        rintro rfl
        cases other
      have ended : labelTail (c :: rest) taken good = good := by
        rw [labelTail, if_neg point, other]
        rfl
      exact ended
  | cons c s ih => rw [List.cons_append, labelTail, labelTail, ih, ih]

/-- A blank label needs its colon, so a text that gives neither the colon nor more letters leaves it alone. -/
theorem blankLabel_stop (stop : z.head?.any isLabelChar = false) (colon : z.head? ≠ some ':') (s : Text) :
    blankLabel (s ++ z) = blankLabel s := by
  have never {c : Char} {rest : Text} (same : z = c :: rest) : isLabelChar c = false ∧ c ≠ ':' := by
    subst same
    exact ⟨stop, fun same => colon (congrArg some same)⟩
  match s with
  | [] =>
    cases z with
    | nil => rfl
    | cons c rest =>
      refine blankLabel_of_ne ?_ rest
      rintro rfl
      exact absurd (never rfl).1 (by decide)
  | [a] =>
    cases z with
    | nil => rfl
    | cons c rest =>
      rw [List.singleton_append, blankLabel_of_ne_colon (never rfl).2]
      unfold blankLabel
      split
      · next whole => cases whole
      · rfl
  | a :: b :: s =>
    by_cases marks : a = '_' ∧ b = ':'
    · obtain ⟨rfl, rfl⟩ := marks
      cases s with
      | nil =>
        cases z with
        | nil => rfl
        | cons c rest =>
          have word : Text.isWord c = false := (Bool.or_eq_false_iff.mp (Bool.or_eq_false_iff.mp (never rfl).1).1).1
          simp [blankLabel, word]
      | cons c s => simp only [List.cons_append, blankLabel, labelTail_stop stop]
    · have none_ (rest : Text) : blankLabel (a :: b :: rest) = none := by
        by_cases first : a = '_'
        · exact blankLabel_of_ne_colon (fun second => marks ⟨first, second⟩) rest
        · exact blankLabel_of_ne first (b :: rest)
      rw [List.cons_append, List.cons_append, none_, none_]

section Names

variable (parted : Parted z)
include parted

/-- What stands behind a run does not depend on what stands behind the text, as far as the next character goes. -/
theorem head?_drop_run (s : Text) {c : Char} (dark : Text.isBlank c = false) :
    ((s ++ z).drop (run p s)).head? = some c ↔ (s.drop (run p s)).head? = some c := by
  rw [List.drop_append_of_le_length (run_le p s)]
  cases s.drop (run p s) with
  | nil => exact iff_of_false (parted.head?_ne dark) (fun same => nomatch same)
  | cons d rest => rfl

/-- A namespace label ends at a blank. -/
theorem namespaceLabel_stop (s : Text) : namespaceLabel (s ++ z) = namespaceLabel s := by
  cases s with
  | nil =>
    obtain rfl | ⟨c, rest, rfl, blank⟩ := parted.cases
    · rfl
    · have colon : c ≠ ':' := Text.ne_of_blank blank (by decide)
      rw [List.nil_append, namespaceLabel_of_ne colon, Text.not_isAlphanumeric_of_blank blank]
      rfl
  | cons c s =>
    by_cases colon : c = ':'
    · subst colon
      rfl
    · have behind := head?_drop_run (p := isLabelChar) parted s (c := ':') (by decide)
      rw [List.cons_append, namespaceLabel_of_ne colon, namespaceLabel_of_ne colon,
        run_stop s (parted.any not_isLabelChar_of_blank),
        List.take_append_of_le_length (run_le isLabelChar s), decide_eq_decide.mpr behind]

/-- A percent code or a protected character is not completed by white space. -/
theorem localName_unfinished {c : Char} {s : Text} {taken good : Nat} (code : c = '%' → s.length < 2)
    (escape : c = '\\' → s = []) (name : ¬(Text.isWord c || c == ':') = true) (hyphen : ¬(c = '-' ∧ taken ≠ 0))
    (point : ¬(c = '.' ∧ taken ≠ 0)) : localName (c :: s ++ z) taken good = good := by
  by_cases percent : c = '%'
  · subst percent
    obtain rfl | ⟨d, rest, rfl, blank⟩ := parted.cases
    · match s, code rfl with
      | [], _ => simp [localName, show Text.isWord '%' = false by decide]
      | [a], _ => simp [localName, show Text.isWord '%' = false by decide]
    · match s, code rfl with
      | [], _ =>
        cases rest with
        | nil => simp [localName, show Text.isWord '%' = false by decide]
        | cons b rest => simp [localName, Text.not_isHex_of_blank blank]
      | [a], _ => simp [localName, Text.not_isHex_of_blank blank]
  · by_cases backslash : c = '\\'
    · subst backslash
      obtain rfl := escape rfl
      obtain rfl | ⟨d, rest, rfl, blank⟩ := parted.cases
      · simp [localName, show Text.isWord '\\' = false by decide]
      · simp [localName, Text.not_isProtected_of_blank blank]
    · rw [List.cons_append, localName_plain percent backslash, if_neg name, if_neg hyphen, if_neg point]

/-- A local name ends at a blank, also one that is cut inside a percent or a backslash sequence. -/
theorem localName_parted (s : Text) (taken good : Nat) : localName (s ++ z) taken good = localName s taken good := by
  fun_induction localName s taken good with
  | case1 a b rest taken good hex ih => simpa only [List.cons_append, localName, hex, if_true] using ih
  | case2 a b rest taken good hex =>
    simp only [List.cons_append, localName, hex, Bool.false_eq_true, if_false]
  | case3 c rest taken good protection ih => simpa only [List.cons_append, localName, protection, if_true] using ih
  | case4 c rest taken good protection =>
    simp only [List.cons_append, localName, protection, Bool.false_eq_true, if_false]
  | case5 c rest taken good _ _ name ih =>
    have percent : c ≠ '%' := by rintro rfl; exact absurd name (by decide)
    have backslash : c ≠ '\\' := by rintro rfl; exact absurd name (by decide)
    rw [List.cons_append, localName_plain percent backslash, if_pos name, ih]
  | case6 c rest taken good _ _ name hyphen ih =>
    obtain ⟨rfl, more⟩ := hyphen
    rw [List.cons_append, localName_plain (by decide) (by decide), if_neg name, if_pos ⟨rfl, more⟩, ih]
  | case7 c rest taken good _ _ name hyphen point ih =>
    obtain ⟨rfl, more⟩ := point
    rw [List.cons_append, localName_plain (by decide) (by decide), if_neg name, if_neg hyphen, if_pos ⟨rfl, more⟩, ih]
  | case8 c rest taken good code escape name hyphen point =>
    refine localName_unfinished parted ?_ ?_ name hyphen point
    · rintro rfl
      rcases rest with _ | ⟨a, _ | ⟨b, rest⟩⟩
      · exact Nat.two_pos
      · exact Nat.one_lt_two
      · exact absurd rfl (code a b rest rfl)
    · rintro rfl
      rcases rest with _ | ⟨d, rest⟩
      · rfl
      · exact absurd rfl (escape d rest rfl)
  | case9 taken good =>
    obtain rfl | ⟨c, rest, rfl, blank⟩ := parted.cases
    · rfl
    · have percent : c ≠ '%' := Text.ne_of_blank blank (by decide)
      have backslash : c ≠ '\\' := Text.ne_of_blank blank (by decide)
      have colon : c ≠ ':' := Text.ne_of_blank blank (by decide)
      have hyphen : c ≠ '-' := Text.ne_of_blank blank (by decide)
      have point : c ≠ '.' := Text.ne_of_blank blank (by decide)
      rw [List.nil_append, localName_plain percent backslash, Text.not_isWord_of_blank blank, beq_false_of_ne colon]
      simp only [hyphen, point, false_and, if_false, Bool.false_eq_true, Bool.or_self]

/-- A prefixed name ends at a blank. -/
theorem prefixedName_stop (s : Text) : prefixedName (s ++ z) = prefixedName s := by
  unfold prefixedName
  rw [namespaceLabel_stop parted]
  cases found : namespaceLabel s with
  | none => rfl
  | some n =>
    have inside := namespaceLabel_extent found
    rw [Option.map_some, Option.map_some, List.drop_append_of_le_length inside, localName_parted parted]

/-- A variable ends at a blank. -/
theorem var_stop (s : Text) : var (s ++ z) = var s := by
  cases s with
  | nil =>
    obtain rfl | ⟨c, rest, rfl, blank⟩ := parted.cases
    · rfl
    · have question : c ≠ '?' := Text.ne_of_blank blank (by decide)
      have dollar : c ≠ '$' := Text.ne_of_blank blank (by decide)
      exact var_of_ne (not_or.mpr ⟨question, dollar⟩) rest
  | cons c s => rw [List.cons_append, var, var, run?_stop s (parted.any Text.not_isWord_of_blank)]

/-- A bare word ends at a blank. -/
theorem bareWord_stop (s : Text) : bareWord (s ++ z) = bareWord s := by
  cases s with
  | nil =>
    obtain rfl | ⟨c, rest, rfl, blank⟩ := parted.cases
    · rfl
    · exact bareWord_of_ne (by rw [Text.not_isWord_of_blank blank]; rfl) rest
  | cons c s => rw [List.cons_append, bareWord, bareWord, run_stop s (parted.any Text.not_isWord_of_blank)]

end Names

/-! ## Numbers, truth values and symbols -/

/-- Whether a text starts with a word is decided in front of what continues no word. -/
theorem startsWith_stop (stop : z.head?.any continuesTruth = false) {word : Text} (letters : word.all joinsWord = true)
    (s : Text) : startsWith word (s ++ z) = startsWith word s := by
  induction s generalizing word with
  | nil =>
    cases z with
    | nil => rfl
    | cons c rest =>
      cases word with
      | nil => rfl
      | cons w word =>
        obtain ⟨alone, upper⟩ := Bool.or_eq_false_iff.mp (show continuesTruth c = false from stop)
        have free {w : Char} (letter : joinsWord w = true) : c ≠ w := by
          rintro rfl
          rw [alone] at letter
          cases letter
        have other : (c.toUpper == w) = false := by
          rw [bne_eq_false_iff_eq.mp upper]
          exact beq_false_of_ne (free (Bool.and_eq_true_iff.mp letters).1)
        rw [List.nil_append, startsWith, startsWith, other, beq_false_of_ne (free (by decide))]
        rfl
  | cons c s ih =>
    cases word with
    | nil => rfl
    | cons w word =>
      rw [List.cons_append, startsWith, startsWith, ih (Bool.and_eq_true_iff.mp letters).2]

/-- Whether a truth value stands alone is said by the characters next to it, unless they go on no truth value. -/
theorem truthValue_stop (stop : z.head?.any continuesTruth = false) {before before' : Option Char}
    (joined : before'.any joinsWord = before.any joinsWord) (s : Text) :
    truthValue before' (s ++ z) = truthValue before s := by
  have alone : z.head?.any joinsWord = false := by
    cases z with
    | nil => rfl
    | cons c rest => exact (Bool.or_eq_false_iff.mp stop).1
  have same (word : Text) (letters : word.all joinsWord = true) :
      (startsWith word (s ++ z) && !before'.any joinsWord && !((s ++ z).drop word.length).head?.any joinsWord) =
        (startsWith word s && !before.any joinsWord && !(s.drop word.length).head?.any joinsWord) := by
    rw [startsWith_stop stop letters, joined]
    cases found : startsWith word s with
    | false => rfl
    | true =>
      rw [List.drop_append_of_le_length (startsWith_length found)]
      cases s.drop word.length with
      | nil => rw [List.nil_append, alone]; rfl
      | cons c rest => rfl
  unfold truthValue
  simp only [List.findSome?_cons, List.findSome?_nil]
  rw [same _ (by decide), same _ (by decide)]

section Symbols

variable (parted : Parted z)
include parted

/-- No symbol runs over a blank. -/
theorem isPrefixOf_stop {word : Text} (dark : word.any Text.isBlank = false) (s : Text) :
    word.isPrefixOf (s ++ z) = word.isPrefixOf s := by
  induction s generalizing word with
  | nil =>
    obtain rfl | ⟨c, rest, rfl, blank⟩ := parted.cases
    · rfl
    · cases word with
      | nil => rfl
      | cons w word =>
        have other : (w == c) = false :=
          beq_false_of_ne (Text.ne_of_blank blank (Bool.or_eq_false_iff.mp dark).1).symm
        exact congrArg (· && word.isPrefixOf rest) other
  | cons c s ih =>
    cases word with
    | nil => rfl
    | cons w word =>
      rw [List.cons_append, List.isPrefixOf, List.isPrefixOf, ih (Bool.or_eq_false_iff.mp dark).2]

/-- A symbol is read in front of a blank as it is read alone. -/
theorem symbol_stop (s : Text) : symbol (s ++ z) = symbol s := by
  have dark : ∀ symbol ∈ symbols, symbol.any Text.isBlank = false := by decide
  have first : symbols.find? (·.isPrefixOf (s ++ z)) = symbols.find? (·.isPrefixOf s) :=
    List.find?_congr fun symbol member => isPrefixOf_stop parted (dark symbol member) s
  rw [symbol, symbol, first]

end Symbols

/-! ## IRIs -/

/-- **Two texts that may stand behind a word**: words end in front of both.  An IRI ends in front of the second one,
and nothing but white space follows only if nothing else follows in the first. -/
structure Spacing (z z' : Text) : Prop where
  parted : Parted z
  plain : z'.head?.all Text.isPlainBlank = true
  ending : z'.all Text.isBlank = true → z.all Text.isBlank = true

namespace Spacing

variable (spacing : Spacing z z')
include spacing

/-- The second text of a spacing is parted too. -/
theorem parted' : Parted z' := by
  have plain := spacing.plain
  cases z' with
  | nil => rfl
  | cons c rest => exact Text.isBlank_of_isPlainBlank plain

/-- The second text of a spacing ends an IRI. -/
theorem ends_iri : z'.head?.any isIriChar = false := by
  have plain := spacing.plain
  cases z' with
  | nil => rfl
  | cons c rest =>
    simp only [List.head?_cons, Option.all_some, Text.isPlainBlank, Bool.or_eq_true, beq_iff_eq] at plain
    change isIriChar c = false
    obtain ((rfl | rfl) | rfl) | rfl := plain <;> decide

end Spacing

/-- A run that goes on over the whole text. -/
theorem run_whole_append (h : s.all p = true) (z : Text) : run p (s ++ z) = s.length + run p z :=
  (run_of_all h z).1

/-- An IRI that is closed in front of a text is closed in front of its spacing, at the same place. -/
theorem iri_spacing (spacing : Spacing z z') (s : Text) : Keeps s.length (iri (s ++ z)) (iri (s ++ z')) := by
  cases s with
  | nil =>
    have first {z : Text} (parted : Parted z) : iri z = none := by
      obtain rfl | ⟨c, rest, rfl, blank⟩ := parted.cases
      · rfl
      · rw [iri_cons, if_neg]
        rintro ⟨rfl, -⟩
        exact absurd blank (by decide)
    rw [List.nil_append, List.nil_append, first spacing.parted, first spacing.parted']
    exact .refl
  | cons first s =>
    rw [List.cons_append, List.cons_append, iri_cons, iri_cons]
    by_cases all : s.all isIriChar = true
    · have closed : ¬(first = '<' ∧ ((s ++ z').drop (run isIriChar (s ++ z'))).head? = some '>') := by
        rw [run_stop s spacing.ends_iri, head?_drop_run spacing.parted' s (by decide)]
        rintro ⟨-, same⟩
        have whole : run isIriChar s = s.length := by simpa using run_whole_append all []
        rw [whole, List.drop_length] at same
        cases same
      rw [if_neg closed, run_whole_append all z]
      split
      · exact .beyond (by rw [List.length_cons]; omega)
      · exact .refl
    · obtain ⟨n, c, rest, -, -, at_⟩ := run_inside all
      rw [(at_ z).1, (at_ z').1, (at_ z).2.2, (at_ z').2.2]
      exact .refl

/-- The scheme behind a bracket is over at a blank. -/
theorem hasAuthority_stop (parted : Parted z) (s : Text) : hasAuthority (s ++ z) = hasAuthority s := by
  have first : (s ++ z).head?.any isLetter = s.head?.any isLetter := by
    cases s with
    | nil => exact parted.any Text.not_isLetter_of_blank
    | cons c s => rfl
  unfold hasAuthority
  rw [first, run_stop s (parted.any not_isSchemeChar_of_blank), List.drop_append_of_le_length (run_le _ s),
    isPrefixOf_stop parted (by decide)]

/-- If an IRI runs to the end in front of the second text, it does in front of the first. -/
theorem runsToEnd_spacing (spacing : Spacing z z') (h : runsToEnd (s ++ z') = true) : runsToEnd (s ++ z) = true := by
  have stop := run_stop s spacing.ends_iri
  have inside := run_le isIriChar s
  unfold runsToEnd at h ⊢
  dsimp only at h ⊢
  rw [stop, List.take_append_of_le_length inside, List.drop_append_of_le_length inside, Bool.and_eq_true,
    List.all_append, Bool.and_eq_true] at h
  obtain ⟨mark, blank, ending⟩ := h
  have ending := spacing.ending ending
  by_cases all : s.all isIriChar = true
  · obtain ⟨reach, behind⟩ := run_of_all all z
    have whole : run isIriChar s = s.length := by simpa using run_whole_append all []
    rw [whole, List.take_length] at mark
    rw [behind, reach, ← List.take_append_drop (run isIriChar z) z] at *
    rw [List.all_append, Bool.and_eq_true] at ending
    rw [List.take_append_drop, List.take_length_add_append, List.any_append, mark]
    exact ending.2
  · obtain ⟨n, c, rest, -, -, at_⟩ := run_inside all
    have here := (at_ []).1
    rw [List.append_nil] at here
    rw [(at_ z).1, ← here, List.take_append_of_le_length inside, List.drop_append_of_le_length inside, mark,
      List.all_append, blank, ending]
    rfl

/-- A bracket that opens no IRI opens none where the white space differs. -/
theorem opensIri_spacing (spacing : Spacing z z') (h : opensIri (s ++ z) = false) : opensIri (s ++ z') = false := by
  cases s with
  | nil =>
    obtain rfl | ⟨c, rest, rfl, blank⟩ := spacing.parted'.cases
    · rfl
    · have other : c ≠ '<' := Text.ne_of_blank blank (by decide)
      rw [List.nil_append, opensIri_cons, beq_false_of_ne other, Bool.false_and]
  | cons c s =>
    rw [List.cons_append, opensIri_cons, Bool.and_eq_false_iff, Bool.or_eq_false_iff] at h ⊢
    refine h.imp_right fun h => ⟨?_, ?_⟩
    · rw [hasAuthority_stop spacing.parted', ← hasAuthority_stop spacing.parted]
      exact h.1
    · rw [Bool.eq_false_iff]
      exact fun runs => Bool.eq_false_iff.mp h.2 (runsToEnd_spacing spacing runs)

/-! ## Literals and comments -/

/-- The subtags of a language end at a blank. -/
theorem subtags_stop (parted : Parted z) (s : Text) (taken good : Nat) :
    subtags (s ++ z) taken good = subtags s taken good := by
  induction s generalizing taken good with
  | nil =>
    obtain rfl | ⟨c, rest, rfl, blank⟩ := parted.cases
    · rfl
    · have hyphen : c ≠ '-' := Text.ne_of_blank blank (by decide)
      have ended : subtags (c :: rest) taken good = good := by
        rw [subtags, if_neg fun both => hyphen both.1, if_neg]
        rw [Text.not_isLetterOrDigit_of_blank blank]
        exact fun both => Bool.false_ne_true both.1
      exact ended
  | cons c s ih => rw [List.cons_append, subtags, subtags, ih, ih]

/-- A language tag ends at a blank. -/
theorem languageTag_stop (parted : Parted z) (s : Text) : languageTag (s ++ z) = languageTag s := by
  unfold languageTag
  rw [run?_stop s (parted.any Text.not_isLetter_of_blank)]
  cases found : run? isLetter s with
  | none => rfl
  | some n =>
    rw [Option.map_some, Option.map_some, List.drop_append_of_le_length (run?_extent found).2, subtags_stop parted]

/-- A lone mark is no annotation. -/
theorem annotated_lone {c : Char} (parted : Parted z) (tag : c ≠ '@') : annotated ([c] ++ z) = none := by
  obtain rfl | ⟨d, rest, rfl, blank⟩ := parted.cases
  · unfold annotated
    split
    · next whole => exact absurd (List.cons.inj whole).1 tag
    · next whole => cases (List.cons.inj whole).2
    · rfl
  · exact annotated_of_ne_caret tag (Text.ne_of_blank blank (by decide)) rest

/-- What annotates a literal is read the same in front of either text. -/
theorem annotated_spacing (spacing : Spacing z z') (s : Text) :
    Keeps s.length (annotated (s ++ z)) (annotated (s ++ z')) := by
  match s with
  | [] =>
    have first {z : Text} (parted : Parted z) : annotated z = none := by
      obtain rfl | ⟨c, rest, rfl, blank⟩ := parted.cases
      · rfl
      · exact annotated_of_ne (Text.ne_of_blank blank (by decide)) (Text.ne_of_blank blank (by decide)) rest
    rw [List.nil_append, List.nil_append, first spacing.parted, first spacing.parted']
    exact .refl
  | c :: s =>
    by_cases tag : c = '@'
    · subst tag
      have same : languageTag (s ++ z') = languageTag (s ++ z) := by
        rw [languageTag_stop spacing.parted, languageTag_stop spacing.parted']
      exact .inl (congrArg (Option.map (· + 1)) same)
    · match s with
      | [] =>
        rw [annotated_lone spacing.parted tag, annotated_lone spacing.parted' tag]
        exact .refl
      | d :: s =>
        by_cases carets : c = '^' ∧ d = '^'
        · obtain ⟨rfl, rfl⟩ := carets
          have name : prefixedName (s ++ z') = prefixedName (s ++ z) := by
            rw [prefixedName_stop spacing.parted, prefixedName_stop spacing.parted']
          exact ((iri_spacing spacing s).or (.inl name)).map (· + 2) fun n beyond => Nat.add_lt_add_right beyond 2
        · have none_ (rest : Text) : annotated (c :: d :: rest) = none := by
            by_cases first : c = '^'
            · exact annotated_of_ne_caret tag (fun second => carets ⟨first, second⟩) rest
            · exact annotated_of_ne tag first (d :: rest)
          rw [List.cons_append, List.cons_append, List.cons_append, List.cons_append, none_, none_]
          exact .refl

/-- Either text of a spacing gives a string the same marks. -/
theorem Spacing.sameMarks (spacing : Spacing z z') (s : Text) : SameMarks s z z' := by
  intro mark member
  have dark : [mark, mark, mark].any Text.isBlank = false := by
    obtain rfl | rfl := List.mem_pair.mp member <;> decide
  rw [isPrefixOf_stop spacing.parted' dark, isPrefixOf_stop spacing.parted dark]
  exact ⟨rfl, fun opening => (List.isPrefixOf_iff_prefix.mp opening).length_le⟩

/-- A comment ends in front of a line feed, so it is the same in front of another text that starts with one. -/
theorem comment_spacing (spacing : Spacing z z') (s : Text)
    (line : s.head? = some '#' → z'.head?.all (· == '\n') = true) :
    Keeps s.length (comment (s ++ z)) (comment (s ++ z')) := by
  cases s with
  | nil =>
    have first {z : Text} (parted : Parted z) : comment z = none := by
      obtain rfl | ⟨c, rest, rfl, blank⟩ := parted.cases
      · rfl
      · rw [comment_cons, if_neg (Text.ne_of_blank blank (by decide))]
    rw [List.nil_append, List.nil_append, first spacing.parted, first spacing.parted']
    exact .refl
  | cons first s =>
    rw [List.cons_append, List.cons_append, comment_cons, comment_cons]
    by_cases mark : first = '#'
    · subst mark
      have ends : run (· != '\n') z' = 0 := by
        have line := line rfl
        cases z' with
        | nil => rfl
        | cons c rest =>
          obtain rfl : c = '\n' := beq_iff_eq.mp line
          rfl
      by_cases all : s.all (· != '\n') = true
      · rw [run_whole_append all, run_whole_append all, ends]
        by_cases same : run (· != '\n') z = 0
        · rw [same]
          exact .refl
        · exact .beyond (by rw [List.length_cons]; omega)
      · obtain ⟨n, c, rest, -, -, at_⟩ := run_inside all
        rw [(at_ z).1, (at_ z').1]
        exact .refl
    · rw [if_neg mark, if_neg mark]
      exact .refl

end Lexeme

open Lexeme in
/-- **A lexeme that ends in front of white space** is the same in front of other white space. -/
theorem Scan.lexeme?_spacing {before before' : Option Char} {s z z' : Text} {found : Class} {n : Nat}
    (spacing : Spacing z z') (stays : StaysOpen s z z')
    (line : s.head? = some '#' → z'.head?.all (· == '\n') = true)
    (joined : before'.any joinsWord = before.any joinsWord) (closed : found ≠ .openIri)
    (h : lexeme? before (s ++ z) = some (found, n)) (inside : n ≤ s.length) :
    lexeme? before' (s ++ z') = some (found, n) := by
  have same {α : Type} {rule : Text → α} (stop : ∀ {z}, Parted z → rule (s ++ z) = rule s) :
      rule (s ++ z') = rule (s ++ z) := by
    rw [stop spacing.parted, stop spacing.parted']
  refine lexeme?_keeps ?_ closed h inside
  exact
    { comment := comment_spacing spacing s line
      iri := iri_spacing spacing s
      opensIri := opensIri_spacing spacing
      literal := quotedLiteral_exchange (spacing.sameMarks s) stays (annotated_spacing spacing)
      blankLabel := .inl (same fun parted =>
        blankLabel_stop (parted.any not_isLabelChar_of_blank) (parted.head?_ne (by decide)) s)
      prefixedName := .inl (same fun parted => prefixedName_stop parted s)
      var := .inl (same fun parted => var_stop parted s)
      number := same fun parted => number_stop (parted.any Text.not_continuesNumber_of_blank) s
      truthValue := by
        rw [truthValue_stop (spacing.parted'.any not_continuesTruth_of_blank) joined,
          truthValue_stop (spacing.parted.any not_continuesTruth_of_blank) rfl]
      bareWord := .inl (same fun parted => bareWord_stop parted s)
      symbol := same fun parted => symbol_stop parted s }

end QuerySignature
