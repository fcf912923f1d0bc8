import QuerySignature.Proofs.Binding.Cells
import QuerySignature.Proofs.Token.Quoted

/-!
# Proofs/Query/Unquoted — a literal without quotes is read in the style that was scanned

The scanner tells four styles of literals without quotes apart by its rules (`Style.found?`), and the reader tells them
apart again by the marks in the text: by the letters of the words, by an `e`, by a point.  A mark that one of them looks
for the other has put there, so both come to the same style (`Style.Fits`).  The exception is a word in which the scanner
takes a long s for an `S`: the reader, which lowers the case, finds another letter there, and then an `e`.
-/

namespace QuerySignature

namespace Lexeme

variable {word text : Text} {n : Nat}

/-! ## Letters -/

/-- Upper-casing changes nothing that lower-casing does not undo. -/
theorem toLower_toUpper (c : Char) : c.toUpper.toLower = c.toLower := by
  by_cases lower : 'a'.val ≤ c.val ∧ c.val ≤ 'z'.val
  · have low : 97 ≤ c.val.toNat := lower.1
    have high : c.val.toNat ≤ 122 := lower.2
    have code : c.toUpper.val.toNat = c.val.toNat - 32 := by
      delta Char.toUpper
      rw [dif_pos lower]
      change (c.val + 4294967264).toNat = _
      rw [UInt32.toNat_add]
      change (_ + 4294967264) % 2 ^ 32 = _
      omega
    have upper : c.toUpper.val ≥ 'A'.val ∧ c.toUpper.val ≤ 'Z'.val := by
      rw [ge_iff_le, UInt32.le_iff_toNat_le, UInt32.le_iff_toNat_le, code]
      change 65 ≤ _ ∧ _ ≤ 90
      omega
    have plain : ¬(c.val ≥ 'A'.val ∧ c.val ≤ 'Z'.val) := by
      rw [ge_iff_le, UInt32.le_iff_toNat_le, UInt32.le_iff_toNat_le]
      change ¬(65 ≤ _ ∧ _ ≤ 90)
      omega
    delta Char.toLower
    rw [dif_pos upper, dif_neg plain]
    refine Char.ext (UInt32.toNat.inj ?_)
    change (c.toUpper.val + 32).toNat = _
    rw [UInt32.toNat_add, code]
    change (_ + 32) % 2 ^ 32 = _
    omega
  · have kept : c.toUpper = c := dif_neg lower
    rw [kept]

/-- A character that counts as a letter of a word is that letter in lower case, or the long s. -/
theorem toLower_of_counts {c w : Char} (h : (c.toUpper == w || (c == 'ſ' && w == 'S')) = true) :
    c.toLower = w.toLower ∨ c = 'ſ' := by
  rcases (Bool.or_eq_true _ _).mp h with same | long
  · rw [← beq_iff_eq.mp same, toLower_toUpper]
    exact .inl rfl
  · exact .inr (beq_iff_eq.mp (Bool.and_eq_true_iff.mp long).1)

/-- **A word spelt without a long s** is the word in lower case. -/
theorem lowered_of_startsWith (starts : startsWith word text = true) (length : text.length = word.length)
    (plain : 'ſ' ∉ text) : text.map Char.toLower = word.map Char.toLower := by
  induction word generalizing text with
  | nil => rw [List.eq_nil_of_length_eq_zero length]
  | cons w word ih =>
    obtain ⟨c, text, rfl⟩ := List.exists_cons_of_length_eq_add_one length
    obtain ⟨first, others⟩ := Bool.and_eq_true_iff.mp starts
    obtain ⟨short, plain⟩ := not_or.mp (mt List.mem_cons.mpr plain)
    rw [List.map_cons, List.map_cons, (toLower_of_counts first).resolve_right (Ne.symm short),
      ih others (Nat.succ.inj length) plain]

/-- Any other letter of the word is spelt in either case. -/
theorem mem_lowered_of_startsWith {w : Char} (starts : startsWith word text = true) (member : w ∈ word)
    (other : w ≠ 'S') : w.toLower ∈ text.map Char.toLower := by
  induction word generalizing text with
  | nil => cases member
  | cons first word ih =>
    rcases text with _ | ⟨c, text⟩
    · cases starts
    · obtain ⟨counts, others⟩ := Bool.and_eq_true_iff.mp starts
      rcases List.mem_cons.mp member with rfl | member
      · rw [beq_false_of_ne other, Bool.and_false, Bool.or_false, beq_iff_eq] at counts
        rw [← counts, toLower_toUpper]
        exact .head _
      · exact .tail _ (ih others member)

/-- A long s is only read where the word has an `S`. -/
theorem mem_of_long (starts : startsWith word text = true) (length : text.length = word.length) (long : 'ſ' ∈ text)
    (plain : 'ſ' ∉ word) : 'S' ∈ word := by
  induction word generalizing text with
  | nil =>
    rw [List.eq_nil_of_length_eq_zero length] at long
    cases long
  | cons w word ih =>
    obtain ⟨c, text, rfl⟩ := List.exists_cons_of_length_eq_add_one length
    obtain ⟨first, others⟩ := Bool.and_eq_true_iff.mp starts
    obtain ⟨here, plain⟩ := not_or.mp (mt List.mem_cons.mpr plain)
    rcases List.mem_cons.mp long with rfl | long
    · have upper : ('ſ'.toUpper == w) = false := beq_false_of_ne here
      rw [upper, Bool.false_or, Bool.and_eq_true_iff] at first
      rw [beq_iff_eq.mp first.2]
      exact .head _
    · exact .tail _ (ih others (Nat.succ.inj length) long plain)

/-! ## Digits -/

/-- A digit or a point. -/
def isNumeral (c : Char) : Bool :=
  Text.isDecimal c || c == '.'

theorem isNumeral_of_isDecimal {c : Char} (h : Text.isDecimal c = true) : isNumeral c = true := by
  rw [isNumeral, h, Bool.true_or]

/-- Digits and points have no case. -/
theorem toLower_of_isNumeral {c : Char} (h : isNumeral c = true) : c.toLower = c := by
  rcases (Bool.or_eq_true _ _).mp h with digit | point
  · refine dif_neg ?_
    rintro ⟨low, high⟩
    have letter : 65 ≤ c.toNat ∧ c.toNat ≤ 90 := ⟨low, high⟩
    rw [Text.isDecimal_of_ascii (by omega), Char.isDigit, Bool.and_eq_true_iff, decide_eq_true_iff,
      decide_eq_true_iff] at digit
    have code : c.toNat ≤ 57 := digit.2
    omega
  · rw [beq_iff_eq.mp point]
    rfl

/-- A number starts with a digit or with a point. -/
theorem number_head (h : number text = some n) : text.head?.any isNumeral = true := by
  rcases text with _ | ⟨c, text⟩
  · cases h
  · by_contra other
    rw [Bool.not_eq_true, List.head?_cons, Option.any_some, isNumeral, Bool.or_eq_false_iff] at other
    rw [number_of_ne other.1 (ne_of_beq_false other.2)] at h
    cases h

/-- A truth value starts with a letter. -/
theorem number_of_truthValue {before : Option Char} (h : truthValue before text = some n) : number text = none := by
  rcases text with _ | ⟨c, text⟩
  · rfl
  · have letter : c.toUpper = 'T' ∨ c.toUpper = 'F' := by
      by_contra other
      obtain ⟨t, f⟩ := not_or.mp other
      rw [truthValue_of_ne t f] at h
      cases h
    refine number_of_ne (Bool.eq_false_iff.mpr fun digit => ?_) ?_ text
    · rw [toUpper_of_isDigit (Text.isDigit_of_isDecimal digit)] at letter
      rcases letter with rfl | rfl <;> exact absurd digit (by decide)
    · rintro rfl
      revert letter
      decide

/-- Digits, a point and digits: such a text holds a point, and nothing but digits beside it. -/
theorem chars_of_decimal (h : decimal text = some text.length) :
    '.' ∈ text ∧ ∀ c ∈ text, isNumeral c = true := by
  obtain ⟨m, behind, length⟩ := Option.map_eq_some_iff.mp h
  have parts := List.take_append_drop (run Text.isDecimal text) text
  have tail := congrArg List.length parts
  rw [List.length_append, List.length_take_of_le (run_le _ _)] at tail
  obtain ⟨rest, point⟩ := List.head?_eq_some_iff.mp (fraction_head behind)
  rw [point] at behind parts tail
  obtain ⟨k, digits, rfl⟩ := Option.map_eq_some_iff.mp behind
  obtain ⟨whole, -⟩ := run?_eq_some.mp digits
  have all : rest.all Text.isDecimal = true := by
    have reached : run Text.isDecimal (rest ++ []) = rest.length := by
      rw [List.append_nil, whole]
      rw [List.length_cons] at tail
      omega
    exact (run_eq_length.mp reached).1
  have front : (text.take (run Text.isDecimal text)).all Text.isDecimal = true := by
    rw [take_run]
    exact List.all_takeWhile
  rw [← parts]
  refine ⟨List.mem_append_right _ (.head _), fun c member => ?_⟩
  rcases List.mem_append.mp member with member | member
  · exact isNumeral_of_isDecimal (List.all_eq_true.mp front c member)
  · rcases List.mem_cons.mp member with rfl | member
    · rfl
    · exact isNumeral_of_isDecimal (List.all_eq_true.mp all c member)

/-- A number with an exponent holds its mark. -/
theorem mark_mem_of_scaled {mantissa : Text → Option Nat} (h : scaled mantissa text = some n) :
    'e' ∈ text.map Char.toLower := by
  obtain ⟨k, m, -, behind, -⟩ := scaled_eq_some.mp h
  obtain ⟨mark, member, head⟩ := exponent_head behind
  refine List.mem_map.mpr ⟨mark, List.mem_of_mem_drop (List.mem_of_mem_head? head), ?_⟩
  rcases List.mem_pair.mp member with rfl | rfl <;> rfl

end Lexeme

namespace Literal

open Lexeme

variable {before : Option Char} {text rest sign : Text} {n : Nat}

/-! ## Styles -/

/-- **The styles of literals without quotes**: numbers with an exponent, with a point and with neither, and truth
values. -/
inductive Style where
  | double
  | decimal
  | integer
  | truth (value : Bool)
  deriving DecidableEq, Repr

namespace Style

/-- The word of a truth value, in upper case. -/
def word (value : Bool) : Text :=
  if value then "TRUE".toList else "FALSE".toList

/-- **How far a literal of the style reaches**; `before` is the character in front of it. -/
def rule (before : Option Char) : Style → Text → Option Nat
  | double, text => (scaled pointed text).or (scaled (run? Text.isDecimal) text)
  | decimal, text => Lexeme.decimal text
  | integer, text => run? Text.isDecimal text
  | truth value, text =>
    if startsWith (word value) text && !before.any joinsWord && !(text.drop (word value).length).head?.any joinsWord
    then some (word value).length else none

/-- **The style that the scanner finds**: the first one that fits, with the length of the literal. -/
def found? (before : Option Char) (text : Text) : Option (Style × Nat) :=
  [double, decimal, integer, truth true, truth false].findSome? fun style =>
    (style.rule before text).map (style, ·)

/-- **The literal of a style**: a truth value has its word in lower case, and a number has what is written, behind its
sign. -/
def literal (sign text : Text) : Style → Literal
  | double => ⟨sign ++ text, (sign ++ text).map Char.toNat, none, some (datatypes ++ "double".toList)⟩
  | decimal => ⟨sign ++ text, (sign ++ text).map Char.toNat, none, some (datatypes ++ "decimal".toList)⟩
  | integer => ⟨sign ++ text, (sign ++ text).map Char.toNat, none, some (datatypes ++ "integer".toList)⟩
  | truth value => ⟨text, ((word value).map Char.toLower).map Char.toNat, none, some (datatypes ++ "boolean".toList)⟩

/-- The styles are the alternatives of numbers and truth values, in their order. -/
theorem found?_length (before : Option Char) (text : Text) :
    (found? before text).map Prod.snd = (number text).or (truthValue before text) := by
  simp only [found?, rule, number, truthValue, List.findSome?_cons, List.findSome?_nil, word, if_true,
    Bool.false_eq_true, if_false]
  cases scaled pointed text <;> cases scaled (run? Text.isDecimal) text <;> cases Lexeme.decimal text <;>
    cases run? Text.isDecimal text <;> simp only [Option.map_some, Option.map_none, Option.some_or, Option.none_or]
  by_cases true_ : (startsWith "TRUE".toList text && !before.any joinsWord &&
      !(text.drop "TRUE".toList.length).head?.any joinsWord) = true
  · simp only [if_pos true_, Option.map_some]
  · simp only [if_neg true_, Option.map_none]
    by_cases false_ : (startsWith "FALSE".toList text && !before.any joinsWord &&
        !(text.drop "FALSE".toList.length).head?.any joinsWord) = true
    · simp only [if_pos false_, Option.map_some]
    · simp only [if_neg false_, Option.map_none]

theorem rule_of_found? {style : Style} (h : found? before text = some (style, n)) :
    style.rule before text = some n := by
  obtain ⟨other, -, found⟩ := List.exists_of_findSome?_eq_some h
  obtain ⟨m, rule, same⟩ := Option.map_eq_some_iff.mp found
  cases same
  exact rule

/-- **A scanned literal without quotes has a style.** -/
theorem found?_of_lexeme? (found : Scan.lexeme? before text = some (.token .literal, n))
    (plain : quotedLiteral text = none) : ∃ style, found? before text = some (style, n) := by
  have reaches : (number text).or (truthValue before text) = some n := by
    have cases_ : quotedLiteral text = some n ∨ number text = some n ∨ truthValue before text = some n := by
      simpa using Scan.lexeme?_cases found
    rcases cases_ with quoted | numeral | truth
    · rw [plain] at quoted
      cases quoted
    · rw [numeral, Option.some_or]
    · rw [number_of_truthValue truth, Option.none_or, truth]
  rw [← found?_length] at reaches
  obtain ⟨⟨style, m⟩, first, rfl⟩ := Option.map_eq_some_iff.mp reaches
  exact ⟨style, first⟩

/-! ## What the reader sees -/

/-- **The text fits the style**: it shows the marks of this style and of none before it. -/
def Fits (text : Text) : Style → Prop
  | double => text.head?.any isNumeral = true ∧ 'e' ∈ text.map Char.toLower
  | decimal => '.' ∈ text ∧ ∀ c ∈ text, isNumeral c = true
  | integer => text ≠ [] ∧ ∀ c ∈ text, Text.isDecimal c = true
  | truth value => startsWith (word value) text = true ∧ text.length = (word value).length

/-- **What the scanner finds in a style fits the style.** -/
theorem fits_of_rule {style : Style} (some_ : text ≠ []) (h : style.rule before (text ++ rest) = some text.length) :
    style.Fits text := by
  have all := Nat.le_refl text.length
  cases style with
  | double =>
    have marked : 'e' ∈ text.map Char.toLower := by
      rcases Option.or_eq_some_iff.mp h with found | ⟨-, found⟩
      · exact mark_mem_of_scaled (scaled_front stable_pointed found all)
      · exact mark_mem_of_scaled (scaled_front (stable_run? _) found all)
    have numeral : ∃ m, number (text ++ rest) = some m := by
      rcases Option.or_eq_some_iff.mp h with found | ⟨first, found⟩
      · exact ⟨_, by rw [number, found, Option.some_or]⟩
      · exact ⟨_, by rw [number, first, Option.none_or, found, Option.some_or]⟩
    obtain ⟨m, numeral⟩ := numeral
    have head := number_head numeral
    rw [List.head?_append_of_ne_nil _ some_] at head
    exact ⟨head, marked⟩
  | decimal => exact chars_of_decimal (decimal_front h all)
  | integer =>
    have reached : run Text.isDecimal (text ++ []) = text.length := by
      rw [List.append_nil]
      exact (run?_eq_some.mp (run?_front h all)).1
    exact ⟨some_, List.all_eq_true.mp (run_eq_length.mp reached).1⟩
  | truth value =>
    dsimp only [rule] at h
    split at h
    · next starts =>
      have length := Option.some.inj h
      have starts := (Bool.and_eq_true_iff.mp (Bool.and_eq_true_iff.mp starts).1).1
      rw [startsWith_append (Nat.le_of_eq length)] at starts
      exact ⟨starts, length.symm⟩
    · cases h

/-- **A number is no word**, and has the datatype of its marks. -/
theorem unquoted_number (sign : Text) (head : text.head?.any isNumeral = true) :
    unquoted sign text = ⟨sign ++ text, (sign ++ text).map Char.toNat, none, some (datatypes ++
      if (text.map Char.toLower).contains 'e' then "double".toList
      else if text.contains '.' then "decimal".toList else "integer".toList)⟩ := by
  rcases text with _ | ⟨c, text⟩
  · cases head
  · refine if_neg (not_or.mpr ⟨fun same => ?_, fun same => ?_⟩) <;>
      rw [List.map_cons, toLower_of_isNumeral head] at same <;>
      rw [List.head?_cons, Option.any_some, (List.cons.inj same).1] at head <;> revert head <;> decide

/-- What is written in digits and points alone is the same in lower case. -/
theorem lowered_of_numerals (h : ∀ c ∈ text, isNumeral c = true) : text.map Char.toLower = text := by
  refine (List.map_congr_left fun c member => ?_).trans (List.map_id text)
  exact toLower_of_isNumeral (h c member)

theorem no_mark_of_numerals (h : ∀ c ∈ text, isNumeral c = true) :
    (text.map Char.toLower).contains 'e' = false := by
  rw [lowered_of_numerals h]
  refine Bool.eq_false_iff.mpr fun marked => absurd (h 'e' (List.contains_iff_mem.mp marked)) ?_
  decide

/-- A word that is spelt with a long s. -/
def LongWord (text : Text) (style : Style) : Prop :=
  style = truth false ∧ 'ſ' ∈ text

/-- **A text that fits a style is read in it**, unless it is a word with a long s. -/
theorem Fits.unquoted {style : Style} (h : style.Fits text) (sign : Text) (plain : ¬style.LongWord text) :
    unquoted sign text = style.literal sign text := by
  cases style with
  | double =>
    rw [unquoted_number sign h.1, if_pos (List.contains_iff_mem.mpr h.2)]
    rfl
  | decimal =>
    obtain ⟨c, others, rfl⟩ := List.exists_cons_of_ne_nil (List.ne_nil_of_mem h.1)
    have head : (c :: others).head?.any isNumeral = true := h.2 c (.head _)
    rw [unquoted_number sign head, no_mark_of_numerals h.2, if_neg Bool.false_ne_true,
      if_pos (List.contains_iff_mem.mpr h.1)]
    rfl
  | integer =>
    obtain ⟨some_, digits⟩ := h
    obtain ⟨c, others, rfl⟩ := List.exists_cons_of_ne_nil some_
    have numerals : ∀ d ∈ c :: others, isNumeral d = true := fun d member => isNumeral_of_isDecimal (digits d member)
    have point : (c :: others).contains '.' = false :=
      Bool.eq_false_iff.mpr fun held => absurd (digits '.' (List.contains_iff_mem.mp held)) (by decide)
    have head : (c :: others).head?.any isNumeral = true := numerals c (.head _)
    rw [unquoted_number sign head, no_mark_of_numerals numerals, point]
    rfl
  | truth value =>
    have short : 'ſ' ∉ text := by
      intro long
      cases value with
      | false => exact plain ⟨rfl, long⟩
      | true => exact absurd (mem_of_long h.1 h.2 long (by decide)) (by decide)
    have lowered := lowered_of_startsWith h.1 h.2 short
    unfold Literal.unquoted
    rw [lowered]
    cases value <;> rfl

/-- **A word with a long s is read as a number with an exponent.** -/
theorem Fits.unquoted_long {style : Style} (h : style.Fits text) (sign : Text) (long : style.LongWord text) :
    Literal.unquoted sign text = double.literal sign text := by
  obtain ⟨rfl, long⟩ := long
  have kept : 'ſ' ∈ text.map Char.toLower := List.mem_map.mpr ⟨'ſ', long, by decide⟩
  have marked : 'e' ∈ text.map Char.toLower := mem_lowered_of_startsWith (w := 'E') h.1 (by decide) (by decide)
  have other {spelt : Text} (free : 'ſ' ∉ spelt) : text.map Char.toLower ≠ spelt := by
    rintro rfl
    exact free kept
  have none_ : ¬(text.map Char.toLower = "true".toList ∨ text.map Char.toLower = "false".toList) :=
    not_or.mpr ⟨other (by decide), other (by decide)⟩
  refine (if_neg none_).trans ?_
  rw [if_pos (List.contains_iff_mem.mpr marked)]
  rfl

end Style

end Literal

/-! ## Tokens -/

open Literal Lexeme Piece

/-- **A literal token without quotes has a style**, in which the scanner has found it where it stands. -/
theorem style_of_mem {pieces : List Piece} {token : Token} (cut : IsCut none pieces [])
    (member : token ∈ placed .start pieces) (literal : token.kind = .literal)
    (plain : ∀ mark, IsQuote mark → token.text.head? ≠ some mark) :
    ∃ (style : Style) (front rest : Text), written pieces = front ++ token.text ++ rest ∧
      token.position = Position.start.after front ∧ token.text ≠ [] ∧
      Style.found? front.getLast? (token.text ++ rest) = some (style, token.text.length) := by
  obtain ⟨front, kind, text, back, rfl, rfl⟩ := mem_placed member
  obtain ⟨-, stands, -⟩ := isCut_append.mp cut
  obtain rfl : kind = .literal := literal
  have some_ : text ≠ [] := List.length_pos_iff.mp (Stands.length_pos stands)
  have found := stands.2
  rw [lastOr, Option.or_none] at found
  have unquoted : quotedLiteral (text ++ (written back ++ [])) = none := by
    obtain ⟨c, others, rfl⟩ := List.exists_cons_of_ne_nil some_
    exact quotedLiteral_of_ne (fun same => plain c (.inl same) rfl) (fun same => plain c (.inr same) rfl) _
  obtain ⟨style, first⟩ := Style.found?_of_lexeme? found unquoted
  refine ⟨style, written front, written back, ?_, rfl, some_, ?_⟩
  · rw [written_append, written_cons, Piece.text, List.append_assoc]
  · rwa [List.append_nil] at first

/-- **A literal token without quotes is read in the style that the scanner found.**  Only a word that is spelt with a
long s is read as a number with an exponent instead. -/
theorem read_of_tokenize_unquoted {limits : Limits} {text : Text} {tokens : List Token} {token : Token}
    (h : tokenize limits text = .ok tokens) (member : token ∈ tokens) (literal : token.kind = .literal)
    (plain : ∀ mark, IsQuote mark → token.text.head? ≠ some mark) (sign : Text) :
    ∃ (style : Style) (front rest : Text), text = front ++ token.text ++ rest ∧
      token.position = Position.start.after front ∧
      Style.found? front.getLast? (token.text ++ rest) = some (style, token.text.length) ∧
      (¬style.LongWord token.text → read sign token.text = .ok (style.literal sign token.text)) ∧
      (style.LongWord token.text → read sign token.text = .ok (Style.double.literal sign token.text)) := by
  obtain ⟨-, pieces, cut, rfl, -, rfl⟩ := tokenize_eq_ok.mp h
  rcases List.mem_append.mp member with member | ended
  · obtain ⟨style, front, rest, whole, place, some_, found⟩ := style_of_mem cut member literal plain
    have fits := Style.fits_of_rule some_ (Style.rule_of_found? found)
    have reads : read sign token.text = .ok (unquoted sign token.text) := by
      obtain ⟨c, others, same⟩ := List.exists_cons_of_ne_nil some_
      rw [same] at plain ⊢
      rw [Literal.read, split?_plain (fun same => plain c (.inl same) rfl) fun same => plain c (.inr same) rfl]
    refine ⟨style, front, rest, whole, place, found, fun short => ?_, fun long => ?_⟩
    · rw [reads, fits.unquoted sign short]
    · rw [reads, fits.unquoted_long sign long]
  · obtain rfl := List.mem_singleton.mp ended
    cases literal

/-- The rule at a number with an exponent. -/
theorem read_of_tokenize_unquoted_exponent :
    tokenize .standard "4E1".toList = .ok [⟨.literal, "4E1".toList, .start⟩, ⟨.eof, [], ⟨1, 4, 3⟩⟩] ∧
      ∃ (style : Style) (front rest : Text), "4E1".toList = front ++ "4E1".toList ++ rest ∧
        Style.found? front.getLast? ("4E1".toList ++ rest) = some (style, 3) ∧
        (¬style.LongWord "4E1".toList → read ['-'] "4E1".toList = .ok (style.literal ['-'] "4E1".toList)) := by
  have tokens : tokenize .standard "4E1".toList =
      .ok [⟨.literal, "4E1".toList, .start⟩, ⟨.eof, [], ⟨1, 4, 3⟩⟩] := rfl
  obtain ⟨style, front, rest, whole, -, found, short, -⟩ :=
    read_of_tokenize_unquoted tokens (.head _) rfl (fun mark quote => by rcases quote with rfl | rfl <;> decide) ['-']
  exact ⟨tokens, style, front, rest, whole, found, short⟩

/-- **Not every literal without quotes is read in its style**: `falſe` is a truth value to the scanner, and a number to
the reader. -/
theorem not_read_in_style :
    ¬∀ (limits : Limits) (text : Text) (tokens : List Token) (token : Token) (style : Style) (front rest : Text),
      tokenize limits text = .ok tokens → token ∈ tokens → token.kind = .literal →
      text = front ++ token.text ++ rest → token.position = Position.start.after front →
      Style.found? front.getLast? (token.text ++ rest) = some (style, token.text.length) →
      read [] token.text = .ok (style.literal [] token.text) := by
  intro always
  have found := always .standard "ASK \x7b ?s ?p falſe \x7d".toList _ ⟨.literal, "falſe".toList, ⟨1, 13, 12⟩⟩
    (.truth false) "ASK \x7b ?s ?p ".toList " \x7d".toList rfl
    (.tail _ (.tail _ (.tail _ (.tail _ (.head _))))) rfl rfl rfl rfl
  have number : read [] "falſe".toList = .ok (Style.double.literal [] "falſe".toList) := rfl
  cases number.symm.trans found

end QuerySignature
