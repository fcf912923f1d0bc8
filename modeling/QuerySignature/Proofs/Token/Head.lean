import QuerySignature.Proofs.Token.Extent

/-!
# Proofs/Token/Head — the rules by the first character

Most rules are decided against by the first character of a text: a comment starts with `#`, an IRI with
`<`, a string with a quotation mark, and so on.  Each lemma below says what a rule makes of a text from its
first character, and `Scan.lexeme?_quote` puts them together where a quotation mark comes first.
-/

namespace QuerySignature

namespace Lexeme

/-- Only a sharp begins a comment, which runs to the end of the line. -/
theorem comment_cons (c : Char) (rest : Text) :
    comment (c :: rest) = if c = '#' then some (1 + run (· != '\n') rest) else none := by
  by_cases h : c = '#'
  · subst h
    rfl
  · rw [if_neg h]
    unfold comment
    split
    · next whole => exact absurd (List.cons.inj whole).1 h
    · rfl

/-- Only a bracket begins an IRI, which needs its closing bracket. -/
theorem iri_cons (c : Char) (rest : Text) :
    iri (c :: rest) = if c = '<' ∧ (rest.drop (run isIriChar rest)).head? = some '>'
      then some (run isIriChar rest + 2) else none := by
  by_cases h : c = '<'
  · subst h
    simp only [iri, true_and]
  · rw [if_neg fun both => h both.1]
    unfold iri
    split
    · next whole => exact absurd (List.cons.inj whole).1 h
    · rfl

/-- A bracket opens an IRI by what follows: an authority, or a run to the end of the text. -/
theorem opensIri_cons (c : Char) (rest : Text) :
    opensIri (c :: rest) = (c == '<' && (hasAuthority rest || runsToEnd rest)) := by
  by_cases h : c = '<'
  · subst h
    rfl
  · rw [beq_false_of_ne h, Bool.false_and]
    unfold opensIri
    split
    · next whole => exact absurd (List.cons.inj whole).1 h
    · rfl

/-- Only an underscore begins a blank label. -/
theorem blankLabel_of_ne {c : Char} (h : c ≠ '_') (rest : Text) : blankLabel (c :: rest) = none := by
  unfold blankLabel
  split
  · next whole => exact absurd (List.cons.inj whole).1 h
  · rfl

/-- An underscore without a colon begins no blank label. -/
theorem blankLabel_of_ne_colon {c d : Char} (h : d ≠ ':') (rest : Text) :
    blankLabel (c :: d :: rest) = none := by
  unfold blankLabel
  split
  · next whole => exact absurd (List.cons.inj (List.cons.inj whole).2).1 h
  · rfl

/-- A namespace label that is not the empty one is letters and a colon, with no point before it. -/
theorem namespaceLabel_of_ne {c : Char} (h : c ≠ ':') (rest : Text) :
    namespaceLabel (c :: rest) =
      if Text.isAlphanumeric c && !Text.isDecimal c then
        if (rest.take (run isLabelChar rest)).getLast? != some '.' &&
            (rest.drop (run isLabelChar rest)).head? = some ':' then
          some (run isLabelChar rest + 1)
        else none
      else none := by
  rw [namespaceLabel, take_run]
  · rfl
  · exact h

/-- A local name takes a letter or a colon at once, a hyphen or a point behind a first character only; a point is no
good end. -/
theorem localName_plain {c : Char} (percent : c ≠ '%') (backslash : c ≠ '\\') (rest : Text)
    (taken good : Nat) : localName (c :: rest) taken good =
      if Text.isWord c || c == ':' then localName rest (taken + 1) (taken + 1)
      else if c = '-' ∧ taken ≠ 0 then localName rest (taken + 1) (taken + 1)
      else if c = '.' ∧ taken ≠ 0 then localName rest (taken + 1) good
      else good := by
  rw [localName]
  · rintro a b rest rfl
    exact absurd rfl percent
  · rintro d rest rfl
    exact absurd rfl backslash

/-- A string begins with its mark. -/
theorem stringIn_of_ne {mark c : Char} (h : c ≠ mark) (long : Bool) (rest : Text) :
    stringIn mark long (c :: rest) = none := by
  have first : (mark == c) = false := beq_false_of_ne (Ne.symm h)
  cases long with
  | true => simp [stringIn, List.isPrefixOf, first]
  | false => simp [stringIn, h]

/-- A quoted literal begins with one of the two marks. -/
theorem quotedLiteral_of_ne {c : Char} (double : c ≠ '"') (single : c ≠ '\'') (rest : Text) :
    quotedLiteral (c :: rest) = none := by
  rw [quotedLiteral, string, stringIn_of_ne double, stringIn_of_ne single, stringIn_of_ne double,
    stringIn_of_ne single]
  rfl

/-- A prefixed name begins with a colon or a letter. -/
theorem prefixedName_of_ne {c : Char} (colon : c ≠ ':')
    (letter : (Text.isAlphanumeric c && !Text.isDecimal c) = false) (rest : Text) :
    prefixedName (c :: rest) = none := by
  rw [prefixedName, namespaceLabel_of_ne colon, letter]
  rfl

/-- A variable begins with its mark. -/
theorem var_of_ne {c : Char} (h : ¬(c = '?' ∨ c = '$')) (rest : Text) : var (c :: rest) = none :=
  if_neg h

/-- A number begins with a digit or a point. -/
theorem number_of_ne {c : Char} (digit : Text.isDecimal c = false) (point : c ≠ '.') (rest : Text) :
    number (c :: rest) = none := by
  have zero : run Text.isDecimal (c :: rest) = 0 := by
    rw [run_cons, digit]
    rfl
  have none_ : fraction (c :: rest) = none := by
    unfold fraction
    split
    · next whole => exact absurd (List.cons.inj whole).1 point
    · rfl
  simp [number, scaled, pointed, decimal, run?, zero, none_]

/-- A truth value begins with the first letter of one of its words. -/
theorem truthValue_of_ne {c : Char} (t : c.toUpper ≠ 'T') (f : c.toUpper ≠ 'F') (before : Option Char)
    (rest : Text) : truthValue before (c :: rest) = none := by
  simp [truthValue, startsWith, t, f]

/-- A bare word does not begin with a digit. -/
theorem bareWord_of_ne {c : Char} (h : (Text.isWord c && !Text.isDecimal c) = false) (rest : Text) :
    bareWord (c :: rest) = none := by
  rw [bareWord, h]
  rfl

/-- The first characters of symbols. -/
def symbolHeads : List Char := "^&|!<>\x7b\x7d()[].;,*=+-/?".toList

/-- A symbol begins with one of the listed characters. -/
theorem symbol_of_not_mem {c : Char} (h : c ∉ symbolHeads) (rest : Text) : symbol (c :: rest) = none := by
  have heads : ∀ mark ∈ symbols, mark.head?.any symbolHeads.contains = true := by decide
  rw [symbol, List.find?_eq_none.mpr]
  · rfl
  · intro mark member starts
    have inside := heads mark member
    cases mark with
    | nil => cases inside
    | cons e mark =>
      simp only [List.isPrefixOf, Bool.and_eq_true, beq_iff_eq] at starts
      obtain ⟨rfl, -⟩ := starts
      exact h (List.contains_iff_mem.mp inside)

end Lexeme

namespace Scan

open Lexeme

/-- **Behind a quotation mark** only a literal can be read. -/
theorem lexeme?_quote {c : Char} (h : c = '"' ∨ c = '\'') (before : Option Char) (rest : Text) :
    lexeme? before (c :: rest) =
      (quotedLiteral (c :: rest)).map fun n => (Class.token .literal, n) := by
  have none_ : comment (c :: rest) = none ∧ iri (c :: rest) = none ∧ opensIri (c :: rest) = false ∧
      blankLabel (c :: rest) = none ∧ prefixedName (c :: rest) = none ∧ var (c :: rest) = none ∧
      number (c :: rest) = none ∧ truthValue before (c :: rest) = none ∧ bareWord (c :: rest) = none ∧
      symbol (c :: rest) = none := by
    refine ⟨?_, ?_, ?_, blankLabel_of_ne ?_ rest, prefixedName_of_ne ?_ ?_ rest, var_of_ne ?_ rest,
      number_of_ne ?_ ?_ rest, truthValue_of_ne ?_ ?_ before rest, bareWord_of_ne ?_ rest,
      symbol_of_not_mem ?_ rest⟩
    · rw [comment_cons, if_neg (by rintro rfl; revert h; decide)]
    · rw [iri_cons, if_neg (by rintro ⟨rfl, -⟩; revert h; decide)]
    · rw [opensIri_cons, beq_false_of_ne (by rintro rfl; revert h; decide), Bool.false_and]
    all_goals obtain rfl | rfl := h <;> decide
  simp [lexeme?, none_]

end Scan

end QuerySignature
