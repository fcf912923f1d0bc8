import QuerySignature.Proofs.Json.Kept
import Mathlib.Algebra.Group.Nat.Defs

/-!
# Proofs/Json/Long — integers that are too long to be written

A value has no text exactly if an integer of more than `Text.maxDigits` digits stands somewhere in it (`Json.IsLong`,
`Json.shown?_eq_none`).  Such a value is made by hand: both dialects bound their whole numbers, so no value that stands
in a document (`Json.InText`) is one.
-/

namespace QuerySignature

/-- **An integer has no writing** exactly if it has too many digits. -/
theorem Text.decimal?_eq_none {n : Int} : decimal? n = none ↔ 10 ^ maxDigits ≤ n.natAbs := by
  have length : (ofNat n.natAbs).length ≤ maxDigits ↔ n.natAbs < 10 ^ maxDigits :=
    Nat.length_toDigits_le_iff (by decide) (by decide)
  unfold decimal?
  split
  · next long => simpa using mt length.mpr (Nat.not_le.mpr long)
  · next short => simpa using length.mp (Nat.not_lt.mp short)

namespace Json

/-! ## Parts of values -/

/-- **A value stands in another one**, at any depth. -/
inductive Part (part : Json) : Json → Prop where
  | self : Part part part
  | item {items : List Json} {item : Json} : item ∈ items → Part part item → Part part (.array items)
  | member {fields : List (Text × Json)} {field : Text × Json} : field ∈ fields → Part part field.2 →
      Part part (.object fields)

theorem Part.trans {inner part whole : Json} (h : Part inner part) (h' : Part part whole) : Part inner whole := by
  induction h' with
  | self => exact h
  | item among _ ih => exact .item among ih
  | member among _ ih => exact .member among ih

/-- The value under a key is a part. -/
theorem Part.get? {key : Text} {part value : Json} (h : value.get? key = some part) : Part part value := by
  cases value with
  | object fields => exact .member (mem_of_lookup h) .self
  | _ => cases h

/-- **The value holds an integer of too many digits.** -/
def IsLong (value : Json) : Prop :=
  ∃ n : Int, Part (.int n) value ∧ 10 ^ Text.maxDigits ≤ n.natAbs

theorem IsLong.of_part {part value : Json} (h : Part part value) (long : part.IsLong) : value.IsLong := by
  obtain ⟨n, inside, digits⟩ := long
  exact ⟨n, inside.trans h, digits⟩

@[simp]
theorem isLong_int {n : Int} : (Json.int n).IsLong ↔ 10 ^ Text.maxDigits ≤ n.natAbs := by
  constructor
  · rintro ⟨_, ⟨⟩, digits⟩
    exact digits
  · exact fun digits => ⟨n, .self, digits⟩

@[simp]
theorem isLong_array {items : List Json} : (Json.array items).IsLong ↔ ∃ item ∈ items, item.IsLong := by
  constructor
  · rintro ⟨n, ⟨⟩ | ⟨among, inside⟩ | ⟨⟩, digits⟩
    exact ⟨_, among, n, inside, digits⟩
  · rintro ⟨item, among, long⟩
    exact long.of_part (.item among .self)

@[simp]
theorem isLong_object {fields : List (Text × Json)} :
    (Json.object fields).IsLong ↔ ∃ field ∈ fields, field.2.IsLong := by
  constructor
  · rintro ⟨n, ⟨⟩ | ⟨⟩ | ⟨among, inside⟩, digits⟩
    exact ⟨_, among, n, inside, digits⟩
  · rintro ⟨field, among, long⟩
    exact long.of_part (.member among .self)

/-- A value without parts that is no integer holds none. -/
@[simp]
theorem not_isLong_null : ¬Json.null.IsLong := nofun

@[simp]
theorem not_isLong_bool {value : Bool} : ¬(Json.bool value).IsLong := nofun

@[simp]
theorem not_isLong_float {value : Binary} : ¬(Json.float value).IsLong := nofun

@[simp]
theorem not_isLong_string {text : Text} : ¬(Json.string text).IsLong := nofun

/-! ## Texts of values -/

mutual

/-- **A value has no text exactly if an integer in it is too long.** -/
theorem shown?_eq_none : (value : Json) → (shown? value = none ↔ value.IsLong)
  | .null => by simp [shown?]
  | .bool true => by simp [shown?]
  | .bool false => by simp [shown?]
  | .int n => by simp [shown?, Text.decimal?_eq_none]
  | .float value => by simp [shown?]
  | .string text => by simp [shown?]
  | .array items => by simp [shown?, shownItems?_eq_none items]
  | .object fields => by simp [shown?, shownFields?_eq_none fields]

/-- Items have no texts exactly if one of them has none. -/
theorem shownItems?_eq_none : (items : List Json) → (shownItems? items = none ↔ ∃ item ∈ items, item.IsLong)
  | [] => by simp [shownItems?]
  | item :: rest => by
    rw [shownItems?, List.exists_mem_cons_iff, ← shown?_eq_none item, ← shownItems?_eq_none rest]
    cases shown? item <;> simp

/-- Members have no texts exactly if the value of one of them has none. -/
theorem shownFields?_eq_none :
    (fields : List (Text × Json)) → (shownFields? fields = none ↔ ∃ field ∈ fields, field.2.IsLong)
  | [] => by simp [shownFields?]
  | (key, value) :: rest => by
    rw [shownFields?, List.exists_mem_cons_iff, ← shown?_eq_none value, ← shownFields?_eq_none rest]
    cases shown? value <;> simp

end

variable {value : Json}

/-- The same of a text in which a string is itself. -/
theorem asText?_eq_none : asText? value = none ↔ value.IsLong := by
  cases value with
  | string text => simp [asText?]
  | _ => exact shown?_eq_none _

/-- The text of a value, empty if an integer in the value is too long. -/
def asText (value : Json) : Text :=
  (asText? value).getD []

theorem asText_eq {text : Text} (h : asText? value = some text) : value.asText = text := by
  rw [asText, h, Option.getD_some]

theorem asText?_of_short (h : ¬value.IsLong) : asText? value = some value.asText := by
  obtain ⟨text, is⟩ := Option.ne_none_iff_exists'.mp (mt asText?_eq_none.mp h)
  rw [asText, is, Option.getD_some]

/-- A value with a text holds no integer that is too long. -/
theorem short_of_asText? {text : Text} (h : asText? value = some text) : ¬value.IsLong := by
  rw [← asText?_eq_none, h]
  exact Option.some_ne_none _

/-! ## Values of documents -/

/-- A numeral is less than the power of ten with its number of digits. -/
theorem wholeNumber_lt {digits : Text} (h : digits.all Char.isDigit = true) :
    wholeNumber digits < 10 ^ digits.length := by
  suffices ∀ value, digits.foldl (fun value c => 10 * value + (c.toNat - '0'.toNat)) value
      < (value + 1) * 10 ^ digits.length by
    simpa [wholeNumber] using this 0
  induction digits with
  | nil => simp
  | cons c digits ih =>
    intro value
    rw [List.all_cons, Bool.and_eq_true] at h
    have digit : c.toNat - '0'.toNat < 10 := by
      have most : c.toNat ≤ '9'.toNat := (Char.isDigit_iff_toNat.mp h.1).2
      exact Nat.lt_of_le_of_lt (Nat.sub_le_sub_right most _) (by decide)
    rw [List.foldl_cons, List.length_cons, Nat.pow_succ', ← Nat.mul_assoc]
    exact Nat.lt_of_lt_of_le (ih h.2 _) (Nat.mul_le_mul_right _ (by omega))

/-- The dialect bounds its whole numbers: their digits, or their width. -/
def Dialect.Bounded (dialect : Dialect) : Prop :=
  dialect.maxDigits = some Text.maxDigits ∨ dialect.wordIntegers = true

/-- **A reader that bounds its whole numbers reads none that is too long.** -/
theorem kept_short {dialect : Dialect} (bounded : dialect.Bounded) : Kept dialect (¬IsLong ·) where
  scalar h := by
    cases h with
    | @int n digits decimal whole short narrow =>
      rw [isLong_int, Nat.not_le, whole]
      rcases bounded with most | words
      · rw [most, Option.any_some, decide_eq_false_iff_not, Nat.not_lt] at short
        exact Nat.lt_of_lt_of_le (wholeNumber_lt decimal) (Nat.pow_le_pow_right (by decide) short)
      · calc wholeNumber digits ≤ 0xFFFFFFFFFFFFFFFF := narrow words
          _ < 10 ^ 20 := by decide
          _ ≤ 10 ^ Text.maxDigits := Nat.pow_le_pow_right (by decide) (by decide)
    | _ => simp
  array short := by simpa using short
  object members := by simpa using members.values

/-- **The value stands in a document** that one of the dialects admits. -/
def InText (value : Json) : Prop :=
  ∃ dialect ∈ [Dialect.lenient, .strict], ∃ text document, parse dialect text = .ok document ∧ Part value document

/-- **No value of a document holds an integer that is too long.** -/
theorem InText.short (h : value.InText) : ¬value.IsLong := by
  obtain ⟨dialect, member, text, document, parsed, part⟩ := h
  have bounded : dialect.Bounded := by
    rcases List.mem_pair.mp member with rfl | rfl
    · exact .inl rfl
    · exact .inr rfl
  exact fun long => (kept_short bounded).parse parsed (long.of_part part)

end Json

end QuerySignature
