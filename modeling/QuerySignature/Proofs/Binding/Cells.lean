import Mathlib.Data.List.Forall2
import QuerySignature.Proofs.Binding.Rendering
import QuerySignature.Proofs.Binding.Strings
import QuerySignature.Proofs.Json.Long
import QuerySignature.Proofs.Reading.Values

/-!
# Proofs/Binding/Cells — cells that are written are read back

`Scans` says of a text that, in front of a space or a closing bracket, it is cut into words whose tokens write
some data.  The text of a cell that has been read scans as that cell (`scans_of_isCell`).  `Cell.denoted` is the
cell that a binding stands for.
-/

namespace QuerySignature

open Piece Lexeme

variable {α : Type}

/-! ## Texts that are scanned as data -/

/-- **A text is scanned as what its tokens write**, in front of a stop and behind a character that joins no
word. -/
def Scans (writes : List Token → α → Prop) (a : α) (text : Text) : Prop :=
  ∃ pieces, written pieces = text ∧
    (∀ {before y}, before.any joinsWord = false → Stops y → IsCut before pieces y) ∧
    ∀ position, writes (placed position pieces) a

namespace Scans

variable {writes : List Token → α → Prop} {a : α} {text : Text}

/-- A text that is one word. -/
theorem word (kind : Token.Kind) (light : text.head?.any Text.isBlank = false)
    (found : ∀ {before y}, before.any joinsWord = false → Stops y →
      Scan.lexeme? before (text ++ y) = some (.token kind, text.length))
    (is : ∀ position, writes [⟨kind, text, position⟩] a) : Scans writes a text := by
  refine ⟨[.word kind text], List.append_nil text, fun free stop => ⟨⟨light, ?_⟩, trivial⟩, is⟩
  exact found free stop

theorem mono {β : Type} {writes' : List Token → β → Prop} {b : β} (h : Scans writes a text)
    (imp : ∀ {tokens}, writes tokens a → writes' tokens b) : Scans writes' b text := by
  obtain ⟨pieces, whole, cut, is⟩ := h
  exact ⟨pieces, whole, cut, fun position => imp (is position)⟩

end Scans

/-- A space may follow anything, and no word is joined to it. -/
theorem stops_space (rest : Text) : Stops (' ' :: rest) := ⟨_, _, rfl, .inl rfl⟩

theorem stops_bracket (rest : Text) : Stops (')' :: rest) := ⟨_, _, rfl, .inr rfl⟩

/-! ## Cells that have been read -/

theorem scans_undef : Scans IsCell .undef openCell := by
  refine .word .keyword rfl (fun _ stop => ?_) fun position => .undef ?_
  · obtain ⟨c, rest, rfl, rfl | rfl⟩ := stop <;> rfl
  · rfl

/-- The text of an IRI is the IRI in its brackets. -/
theorem iri_written {text rest : Text} (h : iri (text ++ rest) = some text.length) :
    '<' :: Literal.unwrapped text ++ ['>'] = text := by
  obtain ⟨c, t, rfl⟩ := List.exists_cons_of_length_pos (iri_extent h).1
  rw [List.cons_append, iri_cons] at h
  split at h
  · next closed =>
    obtain ⟨rfl, close⟩ := closed
    have length := Option.some.inj h
    rw [List.length_cons] at length
    rw [List.head?_drop, List.getElem?_append_left (by omega)] at close
    have last : t.getLast? = some '>' := by
      rw [List.getLast?_eq_getElem?, ← close]
      congr 1
      omega
    exact congrArg ('<' :: ·) (List.dropLast_append_getLast? _ last)
  · cases h

/-- A text with a colon is what stands in front of the first one, and what stands behind it. -/
theorem split_colon {text : Text} (h : ':' ∈ text) :
    text.takeWhile (· != ':') ++ ':' :: (text.dropWhile (· != ':')).drop 1 = text := by
  induction text with
  | nil => cases h
  | cons c rest ih =>
    by_cases colon : c = ':'
    · subst colon
      rfl
    · have other : (c != ':') = true := bne_iff_ne.mpr colon
      rw [List.takeWhile_cons, List.dropWhile_cons, if_pos other, if_pos other, List.cons_append,
        ih ((List.mem_cons.mp h).resolve_left (Ne.symm colon))]

/-- A resource that has been read is written as it was. -/
theorem resource_written {name : Token} (found : name.Found) (is : name.isResource = true) :
    name.resource.written = name.text := by
  obtain ⟨before, rest, -, found⟩ := found
  unfold Token.resource
  rcases (Bool.or_eq_true _ _).mp is with kind | named
  · have kind := of_decide_eq_true kind
    rw [kind] at found
    have rules := Scan.lexeme?_cases found
    have rule : iri (name.text ++ rest) = some name.text.length := by simpa using rules
    rw [if_pos kind]
    exact iri_written rule
  · have kind := of_decide_eq_true ((Bool.and_eq_true _ _).mp named).1
    rw [kind] at found
    have colon := Scan.colon_mem_of_name found
    rw [if_neg (by rw [kind]; decide)]
    exact split_colon colon

theorem scans_resource {name : Token} (found : name.Found) (is : name.isResource = true) :
    Scans IsCell (.resource name.resource) name.text := by
  obtain ⟨before, rest, light, found⟩ := found
  have term : name.kind = .iri ∨ name.kind = .prefixedName ∨ name.kind = .literal := by
    rcases (Bool.or_eq_true _ _).mp is with kind | named
    · exact .inl (of_decide_eq_true kind)
    · exact .inr (.inl (of_decide_eq_true ((Bool.and_eq_true _ _).mp named).1))
  have label : name.kind = .prefixedName → ['_', ':'].isPrefixOf name.text = false := by
    intro kind
    rcases (Bool.or_eq_true _ _).mp is with iri | named
    · rw [kind] at iri
      cases iri
    · simpa [Token.hasBlankMark] using ((Bool.and_eq_true _ _).mp named).2
  refine .word _ light (fun free stop => Scan.lexeme?_alone stop free term label found) fun position => ?_
  exact .resource is

theorem scans_literal {token : Token} {value : Literal} (found : token.Found) (kind : token.kind = .literal)
    (read : Literal.read [] token.text = .ok value) : Scans IsCell (.literal value) token.text := by
  obtain ⟨before, rest, light, found⟩ := found
  rw [kind] at found
  exact .word _ light
    (fun free stop => Scan.lexeme?_alone stop free (.inr (.inr rfl)) (fun same => nomatch same) found)
    fun position => .literal rfl read

/-! ### Numbers behind a sign -/

/-- A mark that is a symbol of its own whatever follows. -/
theorem lexeme?_mark {mark : Char} (h : mark ∈ ['+', '-', '(', ')', '\x7b', '\x7d']) (before : Option Char)
    (rest : Text) : Scan.lexeme? before (mark :: rest) = some (.token .punctuation, 1) := by
  simp only [List.mem_cons, List.not_mem_nil, or_false] at h
  rcases h with rfl | rfl | rfl | rfl | rfl | rfl <;> rfl

/-- A text that starts with no quotation mark does not split. -/
theorem Literal.split?_plain {c : Char} (double : c ≠ '"') (single : c ≠ '\'') (text : Text) :
    Literal.split? (c :: text) = none := by
  have free : ∀ mark ∈ Literal.marks, mark.isPrefixOf (c :: text) = false := by
    have heads : ∀ mark ∈ Literal.marks, mark.head? = some '"' ∨ mark.head? = some '\'' := by decide
    intro mark member
    rcases mark with _ | ⟨m, mark⟩
    · exact absurd (heads _ member) (by simp)
    · have other : m ≠ c := by
        rcases heads _ member with same | same <;> rw [Option.some.inj same]
        · exact double.symm
        · exact single.symm
      rw [List.isPrefixOf, beq_false_of_ne other, Bool.false_and]
  exact List.findSome?_eq_none_iff.mpr fun mark member => by rw [free mark member]; rfl

/-- **A number keeps its sign**, and is read with it. -/
theorem read_numeric {number : Token} {sign : Text} {value : Literal} (some_ : number.text ≠ [])
    (is : number.isNumeric = true) (read : Literal.read sign number.text = .ok value) :
    value.lexical = sign ++ number.text := by
  obtain ⟨c, text, whole⟩ := List.exists_cons_of_ne_nil some_
  have digit : c ∈ "0123456789.".toList := by
    have head := ((Bool.and_eq_true _ _).mp is).2
    rw [whole] at head
    exact List.contains_iff_mem.mp head
  have plain : "0123456789.".toList.all (fun d => d != '"' && d != '\'' && d.toLower != 't' && d.toLower != 'f') =
      true := rfl
  have free := List.all_eq_true.mp plain c digit
  simp only [Bool.and_eq_true, bne_iff_ne] at free
  obtain ⟨⟨⟨double, single⟩, t⟩, f⟩ := free
  rw [whole, Literal.read, Literal.split?_plain double single] at read
  rw [← Except.ok.inj read, whole, Literal.unquoted, if_neg]
  rw [List.map_cons, not_or]
  exact ⟨fun same => t (List.cons.inj same).1, fun same => f (List.cons.inj same).1⟩

/-- A literal that has been read without a sign is kept as it was written. -/
theorem read_lexical {text : Text} {value : Literal} (read : Literal.read [] text = .ok value) :
    value.lexical = text := by
  unfold Literal.read at read
  split at read
  · next body suffix _ =>
    cases found : Literal.decoded body with
    | error fault =>
      rw [found] at read
      cases read
    | ok codes =>
      rw [found] at read
      rw [← Except.ok.inj read]
  · rw [← Except.ok.inj read, Literal.unquoted]
    split <;> rfl

/-- The mark of a number is a symbol by itself. -/
theorem sign_of_isSymbol {sign : Token} (h : sign.isSymbol ["+", "-"] = true) :
    ∃ mark ∈ ['+', '-'], sign.text = [mark] := by
  obtain ⟨text, is, member⟩ := (Option.any_eq_true _ _).mp h
  unfold Token.symbol? at is
  split at is
  · obtain rfl := Option.some.inj is
    rcases List.mem_pair.mp (List.contains_iff_mem.mp member) with same | same <;> rw [same]
    · exact ⟨'+', .head _, rfl⟩
    · exact ⟨'-', .tail _ (.head _), rfl⟩
  · cases is

theorem scans_signed {sign number : Token} {value : Literal} (found : number.Found)
    (isSign : sign.isSymbol ["+", "-"] = true) (isNumber : number.isNumeric = true)
    (read : Literal.read sign.text number.text = .ok value) :
    Scans IsCell (.literal value) (sign.text ++ number.text) := by
  obtain ⟨before, rest, light, found⟩ := found
  obtain ⟨mark, member, text⟩ := sign_of_isSymbol isSign
  have kind := Reader.kind_of_isNumeric isNumber
  rw [kind] at found
  rw [text] at read ⊢
  have marks : mark ∈ ['+', '-', '(', ')', '\x7b', '\x7d'] := List.mem_append_left _ member
  have away : Text.isBlank mark = false ∧ joinsWord mark = false := by
    rcases List.mem_pair.mp member with rfl | rfl <;> exact ⟨rfl, rfl⟩
  refine ⟨[.word .punctuation [mark], .word .literal number.text], ?_, fun {_ y} _ stop => ?_, fun position => ?_⟩
  · rw [written_cons, written_cons, written_nil, List.append_nil]
    rfl
  · refine ⟨⟨away.1, lexeme?_mark marks _ _⟩, ⟨light, ?_⟩, trivial⟩
    exact Scan.lexeme?_alone stop away.2 (.inr (.inr rfl)) (fun same => nomatch same) found
  · refine .signed ?_ ?_ read
    · rcases List.mem_pair.mp member with rfl | rfl <;> rfl
    · rw [Token.isNumeric, kind] at isNumber
      exact isNumber

/-- **A cell that has been read scans as itself**, from the text that keeps it. -/
theorem scans_of_isCell {tokens : List Token} {cell : Cell} (found : ∀ token ∈ tokens, token.Found)
    (h : IsCell tokens cell) : Scans IsCell cell cell.written := by
  cases h with
  | undef => exact scans_undef
  | @resource name is =>
    have name_ := found name (.head _)
    change Scans IsCell _ name.resource.written
    rw [resource_written name_ is]
    exact scans_resource name_ is
  | @literal token value kind read =>
    change Scans IsCell _ value.lexical
    rw [read_lexical read]
    exact scans_literal (found token (.head _)) kind read
  | @signed sign number value isSign isNumber read =>
    have number_ := found number (.tail _ (.head _))
    change Scans IsCell _ value.lexical
    rw [read_numeric number_.ne_nil isNumber read]
    exact scans_signed number_ isSign isNumber read

/-! ## Cells of bindings -/

/-- The annotation of a binding: its language, or else its datatype. -/
def Literal.Annotation.denoted (binding : Json) : Literal.Annotation :=
  match binding.getSome? "xml:lang" with
  | some tag => .language tag.asText
  | .none =>
    match binding.getSome? "datatype" with
    | some name => .datatype ('<' :: name.asText ++ ['>'])
    | .none => .none

/-- **The literal that a binding denotes**: the characters of its value, with its language or else with its
datatype.  Its text is the one that renders it. -/
def Literal.denoted (binding value : Json) : Literal where
  lexical := renderString value.asText ++ (Literal.Annotation.denoted binding).written
  value := value.asText.map Char.toNat
  language := (binding.getSome? "xml:lang").map Json.asText
  datatype :=
    if (binding.getSome? "xml:lang").isSome then none else (binding.getSome? "datatype").map Json.asText

/-- The cell that a binding with a value denotes, by its type. -/
def Cell.typed (binding value : Json) : Cell :=
  match (binding.get? "type".toList).bind Json.text? with
  | none => .undef
  | some type =>
    if type = "uri".toList then .resource (.iri value.asText)
    else if type ≠ "literal".toList ∧ type ≠ "typed-literal".toList then .undef
    else .literal (.denoted binding value)

/-- **The cell that a binding denotes**: a resource or a literal, by its type.  A binding without a value or
of another type leaves the variable open. -/
def Cell.denoted (binding : Option Json) : Cell :=
  match binding.filter (!·.isEmptyValue) with
  | none => .undef
  | some binding =>
    match binding.get? "value".toList with
    | some .null | none => .undef
    | some value => .typed binding value

/-- What is said of the rendered text of a literal is what the binding denotes. -/
theorem read_denoted {binding value : Json} (sound : (Literal.Annotation.denoted binding).Sound) :
    Literal.read [] (Literal.denoted binding value).lexical = .ok (.denoted binding value) := by
  refine (Literal.read_rendered sound value.asText).trans ?_
  unfold Literal.denoted Literal.Annotation.denoted
  cases binding.getSome? "xml:lang" with
  | some tag => rfl
  | none =>
    cases binding.getSome? "datatype" with
    | none => rfl
    | some type => simp [Literal.Annotation.datatype?, Literal.Annotation.language?, Literal.unwrapped]

end QuerySignature
