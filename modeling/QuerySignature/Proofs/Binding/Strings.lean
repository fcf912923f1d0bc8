import QuerySignature.Binding.Render
import QuerySignature.Proofs.Query.Escapes
import QuerySignature.Proofs.Token.Alone
import QuerySignature.Proofs.Token.Quoted

/-!
# Proofs/Binding/Strings — a string in quotes is read back

A value between double quotes, with its language or its datatype behind them, is one literal where a stop follows
it or nothing (`quotedLiteral_rendered`), and it is read as the value, the language and the datatype
(`Literal.read_rendered`).  Nothing of the value ends the string, for its own marks are escaped.
-/

namespace QuerySignature

open Lexeme

/-! ## Characters -/

/-- **A character is escaped, or stands for itself**; an escaped one is decoded, and what stands for itself is
neither a mark nor a backslash nor the end of a line. -/
theorem escapedInString_cases (c : Char) :
    (∃ e, escapedInString c = ['\\', e] ∧ e ∉ ['\n', 'u', 'U'] ∧ Literal.escaped e = c.toNat) ∨
      escapedInString c = [c] ∧ c ∉ ['"', '\\', '\n', '\r'] := by
  by_cases special : c ∈ ['"', '\\', '\n', '\r', '\t']
  · left
    simp only [List.mem_cons, List.not_mem_nil, or_false] at special
    rcases special with rfl | rfl | rfl | rfl | rfl <;> exact ⟨_, rfl, by decide, rfl⟩
  · right
    simp only [List.mem_cons, List.not_mem_nil, or_false, not_or] at special ⊢
    obtain ⟨mark, backslash, line, back, tab⟩ := special
    refine ⟨?_, mark, backslash, line, back⟩
    unfold escapedInString
    split <;> simp_all

/-- The characters of a string between its marks. -/
def escapedText (text : Text) : Text :=
  text.flatMap escapedInString

theorem escapedText_cons (c : Char) (text : Text) :
    escapedText (c :: text) = escapedInString c ++ escapedText text :=
  List.flatMap_cons

theorem renderString_eq (text : Text) : renderString text = '"' :: (escapedText text ++ ['"']) :=
  rfl

/-- No mark stands at the start of what is between the marks. -/
theorem escapedText_head (text : Text) : (escapedText text).head? ≠ some '"' := by
  cases text with
  | nil => exact nofun
  | cons c text =>
    rw [escapedText_cons]
    rcases escapedInString_cases c with ⟨e, escaped, -⟩ | ⟨plain, free⟩
    · rw [escaped]
      exact fun same => absurd (Option.some.inj same) (by decide)
    · rw [plain]
      rintro same
      exact free (Option.some.inj same ▸ .head _)

/-! ## The string as a lexeme -/

/-- The string runs to its closing mark. -/
theorem shortString_escapedText (text rest : Text) (taken : Nat) :
    shortString '"' (escapedText text ++ '"' :: rest) taken = some (taken + (escapedText text).length + 1) := by
  induction text generalizing taken with
  | nil => rfl
  | cons c text ih =>
    rw [escapedText_cons, List.append_assoc, List.length_append]
    rcases escapedInString_cases c with ⟨e, escaped, free, -⟩ | ⟨plain, free⟩
    · have line : e ≠ '\n' := fun same => free (same ▸ .head _)
      rw [escaped, List.cons_append, List.singleton_append, shortString, if_neg line, ih]
      simp only [List.length_cons, List.length_nil]
      congr 1
      omega
    · simp only [List.mem_cons, List.not_mem_nil, or_false, not_or] at free
      obtain ⟨mark, backslash, line, back⟩ := free
      rw [plain, List.singleton_append, shortString_plain backslash, if_neg mark, if_neg (by simp [backslash, line, back]), ih]
      rw [List.length_singleton]
      congr 1
      omega

/-- Three marks do not open a string that is written in one. -/
theorem renderString_short (text : Text) {rest : Text} (mark : rest.head? ≠ some '"') :
    ['"', '"', '"'].isPrefixOf (renderString text ++ rest) = false := by
  have head := escapedText_head text
  rw [renderString_eq]
  cases inner : escapedText text with
  | nil =>
    cases rest with
    | nil => rfl
    | cons c rest =>
      have other : '"' ≠ c := fun same => mark (same ▸ rfl)
      simp [List.isPrefixOf, other]
  | cons c inner' =>
    rw [inner] at head
    have other : '"' ≠ c := fun same => head (same ▸ rfl)
    simp [List.isPrefixOf, other]

theorem string_renderString (text : Text) {rest : Text} (mark : rest.head? ≠ some '"') :
    string (renderString text ++ rest) = some (renderString text).length := by
  have short := renderString_short text mark
  have inner : stringIn '"' false (renderString text ++ rest) = some (renderString text).length := by
    have found := shortString_escapedText text rest 1
    have first : (renderString text ++ rest).head? = some '"' := rfl
    rw [stringIn, if_neg (by decide), if_pos first, renderString_eq]
    simp only [List.cons_append, List.append_assoc, List.drop_succ_cons, List.drop_zero,
      List.nil_append, List.length_cons, List.length_append, List.length_nil]
    rw [found]
    congr 1
    omega
  have none₁ : stringIn '"' true (renderString text ++ rest) = none := by
    rw [stringIn, if_pos rfl, short]
    rfl
  have none₂ : stringIn '\'' true (renderString text ++ rest) = none := by
    rw [renderString_eq, List.cons_append]
    exact stringIn_of_ne (by decide) _ _
  rw [string, none₁, none₂, inner]
  rfl

/-! ## The string with its annotation -/

/-- An annotation as a query writes it. -/
def Literal.Annotation.written : Literal.Annotation → Text
  | none => []
  | language tag => '@' :: tag
  | datatype name => '^' :: '^' :: name

/-- **The annotation stays by its string**: it is a language tag or an IRI, or there is none. -/
inductive Literal.Annotation.Sound : Literal.Annotation → Prop where
  | none : Sound none
  | language {tag : Text} : isLanguageTag tag = true → Sound (language tag)
  | datatype {name : Text} : name.all isIriChar = true → Sound (datatype ('<' :: name ++ ['>']))

/-- An IRI in brackets is one lexeme. -/
theorem iri_brackets {name : Text} (h : name.all isIriChar = true) (rest : Text) :
    iri ('<' :: name ++ '>' :: rest) = some (name.length + 2) := by
  have whole : run isIriChar (name ++ '>' :: rest) = name.length := by
    refine run_eq_length.mpr ⟨h, fun c first => ?_⟩
    rw [← Option.some.inj first]
    decide
  rw [List.cons_append, iri_cons, whole, List.drop_left, if_pos ⟨rfl, rfl⟩]

/-- Nothing follows, or a stop does. -/
def Ended (text : Text) : Prop :=
  text = [] ∨ Stops text

theorem languageTag_of_isLanguageTag {tag y : Text} (h : isLanguageTag tag = true) (ended : Ended y) :
    languageTag (tag ++ y) = some tag.length := by
  have alone : languageTag (tag ++ []) = some tag.length := by
    rw [List.append_nil]
    exact eq_of_beq h
  rcases ended with rfl | stop
  · exact alone
  · exact languageTag_alone stop alone

namespace Literal.Annotation.Sound

variable {suffix : Literal.Annotation} {y : Text}

theorem annotated (h : suffix.Sound) (ended : Ended y) :
    (annotated (suffix.written ++ y)).getD 0 = suffix.written.length := by
  cases h with
  | none =>
    obtain rfl | ⟨c, rest, rfl, rfl | rfl⟩ := ended <;> rfl
  | @language tag tagged =>
    have found := languageTag_of_isLanguageTag tagged ended
    change ((languageTag (tag ++ y)).map (· + 1)).getD 0 = tag.length + 1
    rw [found]
    rfl
  | @datatype name inside =>
    have found := iri_brackets inside y
    change ((((iri ('<' :: name ++ ['>'] ++ y)).or _).map (· + 2))).getD 0 = _
    rw [List.append_assoc, List.singleton_append, found]
    simp [written]

/-- No mark follows the string. -/
theorem head (h : suffix.Sound) (ended : Ended y) : (suffix.written ++ y).head? ≠ some '"' := by
  cases h with
  | none =>
    obtain rfl | stop := ended
    · exact nofun
    · exact stop.head?_ne (by decide) (by decide)
  | language => exact fun same => absurd (Option.some.inj same) (by decide)
  | datatype => exact fun same => absurd (Option.some.inj same) (by decide)

end Literal.Annotation.Sound

/-- **A string with its annotation is one literal**, with nothing or a stop behind it. -/
theorem quotedLiteral_rendered {suffix : Literal.Annotation} {y : Text} (sound : suffix.Sound) (text : Text)
    (ended : Ended y) : quotedLiteral (renderString text ++ suffix.written ++ y) =
      some (renderString text ++ suffix.written).length := by
  rw [quotedLiteral, List.append_assoc, string_renderString text (sound.head ended), Option.map_some, List.drop_left,
    sound.annotated ended, List.length_append]

/-! ## Reading the string back -/

/-- **What was escaped is decoded.** -/
theorem decodedFrom_escapedText (text : Text) (codes : List Nat) :
    Literal.decodedFrom (escapedText text) codes = .ok (codes.reverse ++ text.map Char.toNat) := by
  induction text generalizing codes with
  | nil => exact congrArg Except.ok (List.append_nil _).symm
  | cons c text ih =>
    rw [escapedText_cons]
    have next : (c.toNat :: codes).reverse ++ text.map Char.toNat = codes.reverse ++ (c :: text).map Char.toNat := by
      rw [List.reverse_cons, List.append_assoc]
      rfl
    rcases escapedInString_cases c with ⟨e, escaped, free, code⟩ | ⟨plain, free⟩
    · simp only [List.mem_cons, List.not_mem_nil, or_false, not_or] at free
      rw [escaped, List.cons_append, List.singleton_append, Literal.decodedFrom, if_neg (not_or.mpr free.2), code, ih,
        next]
      · exact fun _ _ _ _ _ same => absurd same free.2.1
      · exact fun _ _ _ _ _ _ _ _ _ same => absurd same free.2.2
    · simp only [List.mem_cons, List.not_mem_nil, or_false, not_or] at free
      rw [plain, List.singleton_append, Literal.decodedFrom, ih, next]
      · exact fun _ _ _ _ _ same => absurd same free.2.1
      · exact fun _ _ _ _ _ _ _ _ _ same => absurd same free.2.1
      · exact fun _ _ same => absurd same free.2.1

namespace Literal

/-- A word that is a language tag is made of its characters. -/
theorem isTagChar_of_isLanguageTag {tag : Text} (h : isLanguageTag tag = true) :
    tag ≠ [] ∧ tag.all isTagChar = true :=
  languageTag_isTagChar (languageTag_of_isLanguageTag h (.inl rfl))

namespace Annotation.Sound

variable {suffix : Annotation}

theorem annotation? (h : suffix.Sound) : annotation? suffix.written = some suffix := by
  cases h with
  | none => rfl
  | @language tag tagged =>
    obtain ⟨some_, all⟩ := isTagChar_of_isLanguageTag tagged
    exact annotation?_tag some_ all
  | datatype => rfl

/-- No mark stands in the annotation. -/
theorem free (h : suffix.Sound) : '"' ∉ suffix.written := by
  cases h with
  | none => exact List.not_mem_nil
  | @language tag tagged =>
    have all := List.all_eq_true.mp (isTagChar_of_isLanguageTag tagged).2
    refine List.not_mem_cons_of_ne_of_not_mem (by decide) fun member => ?_
    exact absurd (all _ member) (by decide)
  | @datatype name inside =>
    have all := List.all_eq_true.mp inside
    intro member
    simp only [ Annotation.written, List.mem_cons, List.mem_append, List.cons_append, List.not_mem_nil] at member
    rcases member with member | member | member | member | member | member
    all_goals first
      | exact absurd (all _ member) (by decide)
      | exact absurd member (by decide)

end Annotation.Sound

/-- **The rendered literal splits** into what is between its marks, and its annotation. -/
theorem split?_rendered {suffix : Annotation} (sound : suffix.Sound) (text : Text) :
    split? (renderString text ++ suffix.written) = some (escapedText text, suffix) := by
  have whole : renderString text ++ suffix.written =
      marksOf '"' false ++ (escapedText text ++ marksOf '"' false ++ suffix.written) := rfl
  have short : ¬['"', '"'] <+: escapedText text ++ '"' :: suffix.written := by
    have three := renderString_short text fun first => sound.free (List.mem_of_mem_head? first)
    rw [← Bool.not_eq_true, List.isPrefixOf_iff_prefix, whole] at three
    exact fun starts => three (List.cons_prefix_cons.mpr ⟨rfl, by simpa [marksOf] using starts⟩)
  rw [whole]
  exact split?_marks (.inl rfl) (fun _ => short) sound.annotation? (splitsLast_of_not_mem sound.free)

/-- **The rendered literal is read as the value it renders.** -/
theorem read_rendered {suffix : Annotation} (sound : suffix.Sound) (text : Text) :
    read [] (renderString text ++ suffix.written) =
      .ok ⟨renderString text ++ suffix.written, text.map Char.toNat, suffix.language?,
        suffix.datatype?⟩ := by
  rw [read_of_split? [] (split?_rendered sound text), decoded, decodedFrom_escapedText]
  rfl

end Literal

end QuerySignature
