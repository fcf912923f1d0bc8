import QuerySignature.Proofs.Binding.Cells

/-!
# Proofs/Binding/Single — a binding is one cell, or none can hold it

A value that is bound to a variable is written as one cell, which stands for what the binding denotes, unless it is
`Unfit`: a blank node, an IRI with a mark in it that would end it, a word that is no language tag (`IsTag`), or a part
without a text, because an integer in it is too long.  No part of a document is without one (`Unfit.refused`).  The
cell is one word whatever the value holds (`Rendered.word`), so by itself it is one token (`renderBinding_single`).
-/

namespace QuerySignature

open Piece Lexeme

/-! ## Language tags -/

/-- **Subtags**: each a hyphen with letters or digits behind it. -/
inductive IsSubtags : Text → Prop where
  | nil : IsSubtags []
  | part {part rest : Text} : part ≠ [] → part.all isLetterOrDigit = true → IsSubtags rest →
      IsSubtags ('-' :: (part ++ rest))

/-- **A language tag**: letters, with subtags behind them. -/
def IsTag (text : Text) : Prop :=
  ∃ letters rest, text = letters ++ rest ∧ letters ≠ [] ∧ letters.all isLetter = true ∧ IsSubtags rest

/-- The rest of a subtag, with others behind it. -/
def InSubtag (text : Text) : Prop :=
  ∃ part rest, text = part ++ rest ∧ part.all isLetterOrDigit = true ∧ IsSubtags rest

/-- What stands behind a hyphen: a subtag, with others behind it. -/
def StartsSubtag (text : Text) : Prop :=
  ∃ c rest, text = c :: rest ∧ isLetterOrDigit c = true ∧ InSubtag rest

theorem inSubtag_nil : InSubtag [] := ⟨[], [], rfl, rfl, .nil⟩

theorem isSubtags_cons {c : Char} {rest : Text} : IsSubtags (c :: rest) ↔ c = '-' ∧ StartsSubtag rest := by
  constructor
  · rintro (_ | ⟨some_, all, others⟩)
    obtain ⟨d, part, rfl⟩ := List.exists_cons_of_ne_nil some_
    rw [List.all_cons, Bool.and_eq_true] at all
    exact ⟨rfl, d, _, rfl, all.1, part, _, rfl, all.2, others⟩
  · rintro ⟨rfl, d, _, rfl, letter, part, rest, rfl, all, others⟩
    refine @IsSubtags.part (d :: part) rest (List.cons_ne_nil _ _) ?_ others
    rw [List.all_cons, letter, all]
    rfl

theorem inSubtag_cons {c : Char} {rest : Text} :
    InSubtag (c :: rest) ↔ isLetterOrDigit c = true ∧ InSubtag rest ∨ c = '-' ∧ StartsSubtag rest := by
  constructor
  · rintro ⟨_ | ⟨d, part⟩, others, whole, all, subtags⟩
    · rw [List.nil_append] at whole
      exact .inr (isSubtags_cons.mp (whole ▸ subtags))
    · obtain ⟨rfl, rfl⟩ := List.cons.inj whole
      rw [List.all_cons, Bool.and_eq_true] at all
      exact .inl ⟨all.1, part, others, rfl, all.2, subtags⟩
  · rintro (⟨letter, part, others, rfl, all, subtags⟩ | subtags)
    · exact ⟨c :: part, others, rfl, by rw [List.all_cons, letter, all]; rfl, subtags⟩
    · exact ⟨[], c :: rest, rfl, rfl, isSubtags_cons.mpr subtags⟩

/-- **The scanner takes the whole text as subtags**: within one, or behind a hyphen. -/
theorem subtags_eq_length (text : Text) (taken : Nat) :
    (0 < taken → (subtags text taken taken = taken + text.length ↔ InSubtag text)) ∧
      (subtags text (taken + 1) taken = taken + 1 + text.length ↔ StartsSubtag text) := by
  induction text generalizing taken with
  | nil => simp [subtags, inSubtag_nil, StartsSubtag]
  | cons c rest ih =>
    have length (n : Nat) : n + (c :: rest).length = n + 1 + rest.length := by
      rw [List.length_cons]
      omega
    constructor
    · intro inside
      rw [subtags, inSubtag_cons, length]
      by_cases hyphen : c = '-'
      · rw [if_pos ⟨hyphen, rfl⟩, (ih taken).2]
        simp [hyphen, isLetterOrDigit]
      · by_cases letter : isLetterOrDigit c = true
        · rw [if_neg (by simp [hyphen]), if_pos ⟨letter, inside.ne'⟩, (ih (taken + 1)).1 (Nat.succ_pos _)]
          simp [hyphen, letter]
        · rw [if_neg (by simp [hyphen]), if_neg (by simp [letter])]
          have short : taken ≠ taken + 1 + rest.length := by omega
          simp [hyphen, letter, short]
    · rw [subtags, length, if_neg (by simp)]
      by_cases letter : isLetterOrDigit c = true
      · rw [if_pos ⟨letter, Nat.succ_ne_zero _⟩, (ih (taken + 1 + 1)).1 (Nat.succ_pos _)]
        simp [StartsSubtag, letter]
      · rw [if_neg (by simp [letter])]
        simp only [StartsSubtag, List.cons.injEq]
        constructor
        · intro same
          omega
        · rintro ⟨_, _, ⟨rfl, -⟩, holds, -⟩
          exact absurd holds letter

/-- The scanner takes the whole text as subtags, from their start. -/
theorem subtags_start (text : Text) : subtags text 0 0 = text.length ↔ IsSubtags text := by
  cases text with
  | nil => simp [subtags, IsSubtags.nil]
  | cons c rest =>
    rw [isSubtags_cons, subtags, List.length_cons, Nat.add_comm rest.length]
    by_cases hyphen : c = '-'
    · have behind := (subtags_eq_length rest 0).2
      rw [if_pos ⟨hyphen, rfl⟩, behind]
      simp [hyphen]
    · rw [if_neg (by simp [hyphen]), if_neg (by simp)]
      simp only [hyphen, false_and, iff_false]
      omega

/-- **A text is taken for a language tag** exactly if it is one. -/
theorem isLanguageTag_iff {text : Text} : isLanguageTag text = true ↔ IsTag text := by
  rw [isLanguageTag, beq_iff_eq, languageTag, Option.map_eq_some_iff]
  constructor
  · rintro ⟨n, letters, length⟩
    obtain ⟨rfl, some_⟩ := run?_eq_some.mp letters
    have inside := run_le isLetter text
    refine ⟨text.takeWhile isLetter, text.drop (run isLetter text), ?_, ?_, List.all_takeWhile, ?_⟩
    · rw [← take_run, List.take_append_drop]
    · exact List.length_pos_iff.mp some_
    · rw [← subtags_start, List.length_drop]
      omega
  · rintro ⟨letters, rest, rfl, some_, all, others⟩
    have whole : run isLetter (letters ++ rest) = letters.length := by
      refine run_eq_length.mpr ⟨all, fun c first => ?_⟩
      cases others with
      | nil => cases first
      | part =>
        obtain rfl := Option.some.inj first
        rfl
    refine ⟨letters.length, run?_eq_some.mpr ⟨whole, List.length_pos_iff.mpr some_⟩, ?_⟩
    rw [List.drop_left, subtags_start rest |>.mpr others, List.length_append]

/-! ## Bindings that no cell can hold -/

/-- **A character in the text ends an IRI**: one up to the space, or one of its stops. -/
def BreaksIri (text : Text) : Prop :=
  ∃ c ∈ text, c ≤ ' ' ∨ c ∈ iriStops

theorem all_isIriChar_iff {text : Text} : text.all isIriChar = true ↔ ¬BreaksIri text := by
  simp only [BreaksIri, List.all_eq_true, isIriChar, Bool.and_eq_true, Bool.not_eq_true', decide_eq_true_eq,
    List.contains_eq_mem, decide_eq_false_iff_not, not_exists, not_and, not_or, Char.not_le]

/-- The type of a binding is one of the words. -/
def Json.IsOfType (binding : Json) (words : List String) : Prop :=
  ∃ word ∈ words, binding.get? "type".toList = some (.string word.toList)

theorem Json.isOfType_append {binding : Json} {some_ others : List String} :
    binding.IsOfType (some_ ++ others) ↔ binding.IsOfType some_ ∨ binding.IsOfType others := by
  simp only [IsOfType, List.mem_append, or_and_right, exists_or]

/-- The binding has a value that is not null. -/
def Json.HasValue (binding value : Json) : Prop :=
  binding.get? "value".toList = some value ∧ value ≠ .null

/-- **The text of a part is taken** to write a binding: for the cell, or for the warning that there is none. -/
inductive Shows (binding : Json) : Json → Prop where
  | whole : binding.fields? = none → binding.isEmptyValue = false → Shows binding binding
  | value {value : Json} : binding.IsOfType (["uri"] ++ ["literal", "typed-literal"]) → binding.HasValue value →
      Shows binding value
  | language {value tag : Json} : binding.IsOfType ["literal", "typed-literal"] → binding.HasValue value →
      binding.getSome? "xml:lang" = some tag → Shows binding tag
  | datatype {value type : Json} : binding.IsOfType ["literal", "typed-literal"] → binding.HasValue value →
      binding.getSome? "xml:lang" = none → binding.getSome? "datatype" = some type → Shows binding type
  | type {value type : Json} : ¬binding.IsOfType (["bnode"] ++ ["uri"] ++ ["literal", "typed-literal"]) →
      binding.HasValue value → binding.get? "type".toList = some type → Shows binding type

/-- **No cell can hold the binding** of a variable, and why.  A binding whose text cannot be taken has no cell
either, whatever else is wrong with it. -/
inductive Unfit (name : Text) (binding : Json) : RenderingFault → Prop where
  | blankNode : binding.IsOfType ["bnode"] → Unfit name binding (.refused (.blankNode name))
  | iri {value : Json} {iri : Text} : binding.IsOfType ["uri"] → binding.HasValue value →
      value.asText? = some iri → BreaksIri iri → Unfit name binding (.refused (.invalidIri name iri))
  | language {value tag : Json} {word shown : Text} : binding.IsOfType ["literal", "typed-literal"] →
      binding.HasValue value → ¬value.IsLong → binding.getSome? "xml:lang" = some tag →
      tag.asText? = some word → tag.shown? = some shown → ¬IsTag word →
      Unfit name binding (.refused (.invalidLanguage name shown))
  | datatype {value type : Json} {iri : Text} : binding.IsOfType ["literal", "typed-literal"] →
      binding.HasValue value → ¬value.IsLong → binding.getSome? "xml:lang" = none →
      binding.getSome? "datatype" = some type → type.asText? = some iri → BreaksIri iri →
      Unfit name binding (.refused (.invalidIri name iri))
  | longInteger {part : Json} : Shows binding part → part.IsLong → Unfit name binding .longInteger

/-- A value that has members is an object, and stands for something. -/
theorem Json.of_get? {binding value : Json} {key : Text} (h : binding.get? key = some value) :
    binding.fields?.isNone = false ∧ binding.isEmptyValue = false := by
  cases binding with
  | object fields =>
    cases fields with
    | nil => cases h
    | cons => exact ⟨rfl, rfl⟩
  | _ => cases h

/-- A value that stands for something is a part. -/
theorem Json.Part.getSome? {key : String} {binding part : Json} (h : binding.getSome? key = some part) :
    Part part binding := .get? (Option.filter_eq_some_iff.mp h).1

/-- What is shown of a binding stands in it. -/
theorem Shows.part {binding part : Json} (h : Shows binding part) : part.Part binding := by
  cases h with
  | whole => exact .self
  | value _ given => exact .get? given.1
  | language _ _ tag => exact .getSome? tag
  | datatype _ _ _ type => exact .getSome? type
  | type _ _ type => exact .get? type

/-- **A binding of a document is refused for an error of its own**: its texts can be taken. -/
theorem Unfit.refused {name : Text} {binding : Json} {fault : RenderingFault} (h : Unfit name binding fault)
    (inside : binding.InText) : ∃ error, fault = .refused error := by
  cases h with
  | longInteger shows long => exact absurd (long.of_part shows.part) inside.short
  | _ => exact ⟨_, rfl⟩

/-! ## Texts of cells -/

/-- **A text renders a cell**: the open cell, an IRI in its brackets, or a string with what stays by it. -/
inductive Rendered : Cell → Text → Prop where
  | undef : Rendered .undef openCell
  | iri {name : Text} : name.all isIriChar = true → Rendered (.resource (.iri name)) ('<' :: name ++ ['>'])
  | literal {binding value : Json} : (Literal.Annotation.denoted binding).Sound →
      Rendered (.literal (.denoted binding value)) (Literal.denoted binding value).lexical

namespace Rendered

variable {cell : Cell} {text : Text}

/-- **A cell is one word**, with nothing or a stop behind it, and it is read as the cell. -/
theorem word (h : Rendered cell text) :
    ∃ kind, text.head?.any Text.isBlank = false ∧
      (∀ {before y}, Ended y → Scan.lexeme? before (text ++ y) = some (.token kind, text.length)) ∧
      ∀ position, IsCell [⟨kind, text, position⟩] cell := by
  cases h with
  | undef =>
    refine ⟨.keyword, rfl, fun ended => ?_, fun position => .undef rfl⟩
    obtain rfl | ⟨c, rest, rfl, rfl | rfl⟩ := ended <;> rfl
  | @iri name inside =>
    refine ⟨.iri, rfl, fun {before y} _ => Scan.lexeme?_iri ?_ before, fun position => ?_⟩
    · rw [List.append_assoc, List.singleton_append, iri_brackets inside]
      simp
    · have resource : (⟨.iri, '<' :: name ++ ['>'], position⟩ : Token).resource = .iri name := by
        simp [Token.resource, Literal.unwrapped]
      rw [← resource]
      exact .resource rfl
  | @literal binding value sound =>
    refine ⟨.literal, rfl, fun {before y} ended => ?_, fun position => .literal rfl (read_denoted sound)⟩
    have quoted := quotedLiteral_rendered sound value.asText ended
    exact (Scan.lexeme?_quote (.inl rfl) before _).trans (congrArg (Option.map _) quoted)

/-- The text of a cell scans as the cell. -/
theorem scans (h : Rendered cell text) : Scans IsCell cell text := by
  obtain ⟨kind, light, found, is⟩ := h.word
  exact .word kind light (fun _ stop => found (.inr stop)) is

end Rendered

/-! ## What a binding comes to -/

/-- **What the writing of a binding settles**: a text that renders the cell, or a reason why none can. -/
def Settles (name : Text) (binding : Json) (cell : Cell) : Except RenderingFault Text → Prop
  | .ok text => Rendered cell text
  | .error fault => Unfit name binding fault

section

variable {name : Text} {binding value part : Json} {cell : Cell}

/-- **The text of a part is taken**, or the binding is unfit because there is none. -/
theorem settles_textOf {text? : Option Text} {next : Text → Rendering Text} (shows : Shows binding part)
    (none_iff : text? = none ↔ part.IsLong)
    (settles : ∀ text, text? = some text → Settles name binding cell (next text).outcome) :
    Settles name binding cell (Rendering.textOf text? >>= next).outcome := by
  cases taken : text? with
  | none => exact .longInteger shows (none_iff.mp taken)
  | some text => exact settles text taken

/-- An IRI is written, unless something in it would end it. -/
theorem renderIri_outcome (name iri : Text) :
    (renderIri name iri).outcome = .ok ('<' :: iri ++ ['>']) ∧ iri.all isIriChar = true ∨
      (renderIri name iri).outcome = .error (.refused (.invalidIri name iri)) ∧ BreaksIri iri := by
  unfold renderIri
  by_cases inside : iri.all isIriChar = true
  · rw [if_pos inside]
    exact .inl ⟨rfl, inside⟩
  · rw [if_neg inside]
    exact .inr ⟨rfl, not_not.mp (mt all_isIriChar_iff.mpr inside)⟩

theorem settles_renderLiteral (typed : binding.IsOfType ["literal", "typed-literal"])
    (given : binding.HasValue value) :
    Settles name binding (.literal (.denoted binding value)) (renderLiteral name binding value).outcome := by
  have rendered (sound : (Literal.Annotation.denoted binding).Sound) :
      Rendered (.literal (.denoted binding value))
        (renderString value.asText ++ (Literal.Annotation.denoted binding).written) := .literal sound
  unfold Literal.Annotation.denoted at rendered
  refine settles_textOf (.value (Json.isOfType_append.mpr (.inr typed)) given) Json.asText?_eq_none fun string taken => ?_
  have short := Json.short_of_asText? taken
  rw [Json.asText_eq taken] at rendered
  dsimp only
  cases language : binding.getSome? "xml:lang" with
  | some tag =>
    rw [language] at rendered
    refine settles_textOf (.language typed given language) Json.asText?_eq_none fun word named => ?_
    dsimp only at rendered
    rw [Json.asText_eq named] at rendered
    split
    · next tagged => exact rendered (.language tagged)
    · next other =>
      refine settles_textOf (.language typed given language) (Json.shown?_eq_none tag) fun shown is => ?_
      exact .language typed given short language named is (mt isLanguageTag_iff.mpr other)
  | none =>
    cases datatype : binding.getSome? "datatype" with
    | none =>
      rw [language, datatype] at rendered
      have plain := rendered .none
      rwa [Literal.Annotation.written, List.append_nil] at plain
    | some type =>
      rw [language, datatype] at rendered
      refine settles_textOf (.datatype typed given language datatype) Json.asText?_eq_none fun iri named => ?_
      dsimp only at rendered
      rw [Json.asText_eq named] at rendered
      rw [Rendering.outcome_bind fun _ => .pure _]
      rcases renderIri_outcome name iri with ⟨written, inside⟩ | ⟨broken, breaks⟩
      · rw [written]
        exact rendered (.datatype inside)
      · rw [broken]
        exact .datatype typed given short language datatype named breaks

/-- The word under the key that holds the type. -/
theorem Json.bind_text? {key word : Text} :
    (binding.get? key).bind Json.text? = some word ↔ binding.get? key = some (.string word) := by
  rw [Option.bind_eq_some_iff]
  constructor
  · rintro ⟨value, found, text⟩
    cases value with
    | string => rwa [← Option.some.inj text]
    | _ => cases text
  · exact fun found => ⟨_, found, rfl⟩

/-- A binding whose type is a word is written by the word. -/
theorem typed_of_word (name : Text) {word : Text} (typed : binding.get? "type".toList = some (.string word)) :
    renderTyped name binding value =
        (if word = "uri".toList then Rendering.textOf value.asText? >>= renderIri name
        else if word = "literal".toList ∨ word = "typed-literal".toList then renderLiteral name binding value
        else renderUntyped name (.string word)) ∧
      Cell.typed binding value =
        if word = "uri".toList then .resource (.iri value.asText)
        else if word ≠ "literal".toList ∧ word ≠ "typed-literal".toList then .undef
        else .literal (.denoted binding value) := by
  unfold renderTyped Cell.typed
  rw [typed]
  exact ⟨rfl, rfl⟩

/-- **The value of a resource** is its IRI. -/
theorem typed_uri (name : Text) (typed : binding.IsOfType ["uri"]) :
    renderTyped name binding value = Rendering.textOf value.asText? >>= renderIri name ∧
      Cell.typed binding value = .resource (.iri value.asText) := by
  obtain ⟨_, member, typed⟩ := typed
  obtain rfl := List.mem_singleton.mp member
  exact typed_of_word name typed

/-- **The value of a literal** is its string. -/
theorem typed_literal (name : Text) (typed : binding.IsOfType ["literal", "typed-literal"]) :
    renderTyped name binding value = renderLiteral name binding value ∧
      Cell.typed binding value = .literal (.denoted binding value) := by
  obtain ⟨_, member, typed⟩ := typed
  rcases List.mem_pair.mp member with rfl | rfl <;> exact typed_of_word name typed

/-- **A binding of another type** has no value that is written. -/
theorem typed_other (name : Text) (other : ¬binding.IsOfType (["uri"] ++ ["literal", "typed-literal"])) :
    renderTyped name binding value = renderUntyped name ((binding.get? "type".toList).getD .null) ∧
      Cell.typed binding value = .undef := by
  cases type : binding.get? "type".toList with
  | none =>
    unfold renderTyped Cell.typed
    rw [type]
    exact ⟨rfl, rfl⟩
  | some type_ =>
    cases type_ with
    | string word =>
      have none_ (listed : String) (member : listed ∈ ["uri"] ++ ["literal", "typed-literal"]) :
          word ≠ listed.toList := by
        rintro rfl
        exact other ⟨listed, member, type⟩
      have literal : word ≠ "literal".toList ∧ word ≠ "typed-literal".toList :=
        ⟨none_ _ (.tail _ (.head _)), none_ _ (.tail _ (.tail _ (.head _)))⟩
      rw [(typed_of_word name type).1, (typed_of_word name type).2, if_neg (none_ _ (.head _)), if_neg (none_ _ (.head _)),
        if_neg (not_or.mpr literal), if_pos literal]
      exact ⟨rfl, rfl⟩
    | _ =>
      unfold renderTyped Cell.typed
      rw [type]
      exact ⟨rfl, rfl⟩

/-- A type that is not known is shown. -/
theorem settles_renderUntyped (given : binding.HasValue value)
    (other : ¬binding.IsOfType (["bnode"] ++ ["uri"] ++ ["literal", "typed-literal"])) :
    Settles name binding .undef (renderUntyped name ((binding.get? "type".toList).getD .null)).outcome := by
  cases type : binding.get? "type".toList with
  | none => exact .undef
  | some type_ => exact settles_textOf (.type other given type) Json.asText?_eq_none fun _ _ => .undef

theorem settles_renderTyped (given : binding.HasValue value) (plain : ¬binding.IsOfType ["bnode"]) :
    Settles name binding (.typed binding value) (renderTyped name binding value).outcome := by
  by_cases uri : binding.IsOfType ["uri"]
  · rw [(typed_uri name uri).1, (typed_uri name uri).2]
    refine settles_textOf (.value (Json.isOfType_append.mpr (.inl uri)) given) Json.asText?_eq_none fun iri named => ?_
    rw [Json.asText_eq named]
    rcases renderIri_outcome name iri with ⟨written, inside⟩ | ⟨broken, breaks⟩
    · rw [written]
      exact .iri inside
    · rw [broken]
      exact .iri uri given named breaks
  by_cases literal : binding.IsOfType ["literal", "typed-literal"]
  · rw [(typed_literal name literal).1, (typed_literal name literal).2]
    exact settles_renderLiteral literal given
  have other : ¬binding.IsOfType (["uri"] ++ ["literal", "typed-literal"]) :=
    fun typed => (Json.isOfType_append.mp typed).elim uri literal
  rw [(typed_other name other).1, (typed_other name other).2]
  refine settles_renderUntyped given fun typed => ?_
  exact (Json.isOfType_append.mp typed).elim (fun first => (Json.isOfType_append.mp first).elim plain uri) literal

theorem settles_renderBinding (name : Text) (binding : Json) :
    Settles name binding (.denoted (some binding)) (renderBinding name (some binding)).outcome := by
  unfold renderBinding Cell.denoted
  cases empty : binding.isEmptyValue with
  | true =>
    rw [Option.filter_some, empty]
    exact .undef
  | false =>
    rw [Option.filter_some, empty]
    simp only [Bool.not_false, if_true]
    by_cases plain : binding.fields?.isNone = true
    · have value : binding.get? "value".toList = none := by
        cases binding <;> first | rfl | cases plain
      rw [if_pos plain, value]
      exact settles_textOf (.whole (Option.isNone_iff_eq_none.mp plain) empty) (Json.shown?_eq_none binding)
        fun _ _ => .undef
    · rw [if_neg plain]
      by_cases blank : (binding.get? "type".toList).bind Json.text? = some "bnode".toList
      · rw [if_pos blank]
        exact .blankNode ⟨_, .head _, Json.bind_text?.mp blank⟩
      · rw [if_neg blank]
        have other : ¬binding.IsOfType ["bnode"] := by
          rintro ⟨_, member, typed⟩
          obtain rfl := List.mem_singleton.mp member
          exact blank (Json.bind_text?.mpr typed)
        cases given : binding.get? "value".toList with
        | none => exact .undef
        | some value =>
          cases value with
          | null => exact .undef
          | _ => exact settles_renderTyped ⟨given, Json.noConfusion⟩ other

end

/-- A binding with a value, that is no blank node, is written by its type. -/
theorem renderBinding_typed {name : Text} {binding value : Json} (plain : ¬binding.IsOfType ["bnode"])
    (given : binding.HasValue value) : renderBinding name (some binding) = renderTyped name binding value := by
  obtain ⟨found, present⟩ := given
  obtain ⟨object, some_⟩ := Json.of_get? found
  have other : ¬(binding.get? "type".toList).bind Json.text? = some "bnode".toList :=
    fun blank => plain ⟨_, .head _, Json.bind_text?.mp blank⟩
  unfold renderBinding
  rw [Option.filter_some, some_]
  simp only [Bool.not_false, if_true]
  rw [object, if_neg Bool.false_ne_true, if_neg other, found]
  cases value with
  | null => exact absurd rfl present
  | _ => rfl

/-- A type is one word. -/
theorem Json.IsOfType.disjoint {binding : Json} {words others : List String} (h : binding.IsOfType words)
    (apart : ∀ word ∈ words, ∀ other ∈ others, word.toList ≠ other.toList) : ¬binding.IsOfType others := by
  obtain ⟨word, member, typed⟩ := h
  rintro ⟨other, member', typed'⟩
  exact apart word member other member' (Json.string.inj (Option.some.inj (typed.symm.trans typed')))

theorem renderBinding_uri {name : Text} {binding value : Json} (typed : binding.IsOfType ["uri"])
    (given : binding.HasValue value) :
    renderBinding name (some binding) = Rendering.textOf value.asText? >>= renderIri name :=
  (renderBinding_typed (typed.disjoint (by decide)) given).trans (typed_uri name typed).1

theorem renderBinding_literal {name : Text} {binding value : Json}
    (typed : binding.IsOfType ["literal", "typed-literal"]) (given : binding.HasValue value) :
    renderBinding name (some binding) = renderLiteral name binding value :=
  (renderBinding_typed (typed.disjoint (by decide)) given).trans (typed_literal name typed).1

/-- A text that cannot be taken ends the writing, here or further on. -/
theorem outcome_longInteger {text? : Option Text} {next : Text → Rendering Text}
    (long : ∀ text, text? = some text → (next text).outcome = .error .longInteger) :
    (Rendering.textOf text? >>= next).outcome = .error .longInteger := by
  cases taken : text? with
  | none => rfl
  | some text => exact long text taken

/-- **What is shown of a binding and is too long ends its writing.** -/
theorem Shows.renderBinding {name : Text} {binding part : Json} (h : Shows binding part) (long : part.IsLong) :
    (renderBinding name (some binding)).outcome = .error .longInteger := by
  have none_ : part.asText? = none := Json.asText?_eq_none.mpr long
  cases h with
  | whole plain some_ =>
    rw [QuerySignature.renderBinding, Option.filter_some, some_]
    simp only [Bool.not_false, if_true]
    rw [plain, Option.isNone_none, if_pos rfl, (Json.shown?_eq_none binding).mpr long]
    rfl
  | value typed given =>
    rcases Json.isOfType_append.mp typed with uri | literal
    · rw [renderBinding_uri uri given, none_]
      rfl
    · rw [renderBinding_literal literal given, renderLiteral, none_]
      rfl
  | language typed given language =>
    rw [renderBinding_literal typed given, renderLiteral]
    refine outcome_longInteger fun _ _ => ?_
    rw [language]
    dsimp only
    rw [none_]
    rfl
  | datatype typed given language datatype =>
    rw [renderBinding_literal typed given, renderLiteral]
    refine outcome_longInteger fun _ _ => ?_
    rw [language, datatype]
    dsimp only
    rw [none_]
    rfl
  | type other given type =>
    rw [Json.isOfType_append, Json.isOfType_append, not_or, not_or] at other
    obtain ⟨⟨plain, uri⟩, literal⟩ := other
    have neither := fun typed => (Json.isOfType_append.mp typed).elim uri literal
    rw [renderBinding_typed plain given, (typed_other name neither).1, type, renderUntyped, Option.getD_some, none_]
    rfl

/-- **What no cell can hold is not written.** -/
theorem Unfit.renderBinding {name : Text} {binding : Json} {fault : RenderingFault} (h : Unfit name binding fault) :
    (renderBinding name (some binding)).outcome = .error fault := by
  cases h with
  | blankNode typed =>
    obtain ⟨_, member, typed⟩ := typed
    obtain rfl := List.mem_singleton.mp member
    obtain ⟨object, some_⟩ := Json.of_get? typed
    rw [QuerySignature.renderBinding, Option.filter_some, some_]
    simp only [Bool.not_false, if_true]
    rw [object, if_neg Bool.false_ne_true, if_pos (Json.bind_text?.mpr typed)]
    rfl
  | @iri value iri typed given named breaks =>
    rw [renderBinding_uri typed given, named]
    exact ((renderIri_outcome name iri).resolve_left fun both => all_isIriChar_iff.mp both.2 breaks).1
  | language typed given short language named is other =>
    rw [renderBinding_literal typed given, renderLiteral, Json.asText?_of_short short, language]
    simp only [Rendering.textOf_some, pure_bind]
    rw [named]
    simp only [Rendering.textOf_some, pure_bind]
    rw [if_neg (mt isLanguageTag_iff.mp other), is]
    rfl
  | @datatype value type iri typed given short language datatype named breaks =>
    have broken := (renderIri_outcome name iri).resolve_left fun both => all_isIriChar_iff.mp both.2 breaks
    rw [renderBinding_literal typed given, renderLiteral, Json.asText?_of_short short, language, datatype]
    simp only [Rendering.textOf_some, pure_bind]
    rw [named]
    simp only [Rendering.textOf_some, pure_bind]
    rw [Rendering.outcome_bind fun _ => .pure _, broken.1]
    rfl
  | longInteger shows long => exact shows.renderBinding long

/-- What is written of a binding renders the cell that the binding denotes. -/
theorem rendered_of_renderBinding {name text : Text} {binding : Option Json}
    (h : (renderBinding name binding).outcome = .ok text) : Rendered (.denoted binding) text := by
  cases binding with
  | none =>
    rw [← Except.ok.inj h]
    exact .undef
  | some binding =>
    have settled := settles_renderBinding name binding
    rwa [h] at settled

/-! ## Alone -/

/-- **The text is one token by itself**, and it is read as the cell: under any limits that admit its length. -/
def Cell.StandsAlone (cell : Cell) (text : Text) : Prop :=
  ∀ limits : Limits, text.length ≤ limits.maxInputLength →
    ∃ kind, kind ≠ .eof ∧
      tokenize limits text = .ok [⟨kind, text, .start⟩, ⟨.eof, [], Position.start.after text⟩] ∧
      Reader.cell.read [⟨kind, text, .start⟩] = .done cell []

theorem Rendered.standsAlone {cell : Cell} {text : Text} (h : Rendered cell text) : cell.StandsAlone text := by
  intro limits admitted
  obtain ⟨kind, light, found, is⟩ := h.word
  have alone := @found none [] (.inl rfl)
  refine ⟨kind, Scan.lexeme?_kind alone, ?_, ?_⟩
  · refine tokenize_eq_ok.mpr ⟨admitted, [.word kind text], ⟨⟨light, alone⟩, trivial⟩, List.append_nil text, ?_, rfl⟩
    exact limits.maxTokens_pos
  · have back := @Reader.cell_back _ [] _ (is .start)
    rwa [List.append_nil] at back

/-- **A binding is refused exactly if it is unfit**; otherwise its text is one token by itself, which is read as
what the binding denotes.  An integer too long to be written is the reason only for values that stand in no
document. -/
theorem renderBinding_single (name : Text) (binding : Option Json) :
    (∃ fault, (renderBinding name binding).outcome = .error fault ∧
        ∃ given ∈ binding, Unfit name given fault ∧ (given.InText → ∃ error, fault = .refused error)) ∨
      ∃ text, (renderBinding name binding).outcome = .ok text ∧
        (∀ given ∈ binding, ∀ fault, ¬Unfit name given fault) ∧ (Cell.denoted binding).StandsAlone text := by
  cases outcome : (renderBinding name binding).outcome with
  | error fault =>
    left
    refine ⟨fault, rfl, ?_⟩
    cases binding with
    | none => cases outcome
    | some given =>
      have settled := settles_renderBinding name given
      rw [outcome] at settled
      exact ⟨given, rfl, settled, settled.refused⟩
  | ok text =>
    right
    refine ⟨text, rfl, ?_, (rendered_of_renderBinding outcome).standsAlone⟩
    rintro given rfl fault unfit
    cases outcome.symm.trans unfit.renderBinding

end QuerySignature
