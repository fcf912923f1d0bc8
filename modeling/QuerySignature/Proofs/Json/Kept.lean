import QuerySignature.Json.Parser
import Mathlib.Data.List.Nodup

/-!
# Proofs/Json/Kept — what a reader keeps of the values it puts together

The reader holds the values it has read on a stack of open brackets, and each word adds to them.  So a property that
the values of single words (`Json.Scalar`) have, and arrays and objects have from their parts (`Json.Kept`), holds of
every value that a text writes (`Json.Kept.parse`).  Writing a member in place (`Json.insert`) keeps the keys of an
object apart, and so each object has its keys once.
-/

namespace QuerySignature.Json

/-! ## Keys -/

variable {key : Text} {value : Json} {fields : List (Text × Json)}

/-- Writing a member adds no key but its own. -/
theorem mem_keys_insert {name : Text} (h : name ∈ (insert key value fields).map Prod.fst) :
    name = key ∨ name ∈ fields.map Prod.fst := by
  induction fields with
  | nil => simpa [insert] using h
  | cons field rest ih =>
    obtain ⟨k, v⟩ := field
    by_cases same : k = key
    · simp only [insert, same, ↓reduceIte, List.map_cons] at h ⊢
      exact .inr h
    · simp only [insert, same, ↓reduceIte, List.map_cons, List.mem_cons] at h ⊢
      obtain rfl | h := h
      · exact .inr (.inl rfl)
      · exact (ih h).imp_right .inr

/-- **Writing a member keeps the keys apart.** -/
theorem nodup_keys_insert (h : (fields.map Prod.fst).Nodup) : ((insert key value fields).map Prod.fst).Nodup := by
  induction fields with
  | nil => simp [insert]
  | cons field rest ih =>
    obtain ⟨k, v⟩ := field
    rw [List.map_cons, List.nodup_cons] at h
    by_cases same : k = key
    · simp only [insert, same, ↓reduceIte, List.map_cons, List.nodup_cons]
      exact same ▸ h
    · simp only [insert, same, ↓reduceIte, List.map_cons, List.nodup_cons]
      exact ⟨fun among => (mem_keys_insert among).elim same h.1, ih h.2⟩

/-- A member behind a write is the one that was written, or was there before. -/
theorem mem_insert {field : Text × Json} (h : field ∈ insert key value fields) :
    field = (key, value) ∨ field ∈ fields := by
  induction fields with
  | nil => simpa [insert] using h
  | cons head rest ih =>
    obtain ⟨k, v⟩ := head
    by_cases same : k = key
    · simp only [insert, same, ↓reduceIte, List.mem_cons] at h ⊢
      exact h.imp_right .inr
    · simp only [insert, same, ↓reduceIte, List.mem_cons] at h ⊢
      obtain rfl | h := h
      · exact .inr (.inl rfl)
      · exact (ih h).imp_right .inr

/-- What a key looks up is the value of the first member that has the key. -/
theorem lookup_cons {name : Text} : lookup key ((name, value) :: fields) =
    if name = key then some value else lookup key fields := by
  by_cases same : name = key <;> simp [lookup, same]

/-- What a key looks up is the value of a member. -/
theorem mem_of_lookup (h : lookup key fields = some value) : (key, value) ∈ fields := by
  obtain ⟨⟨name, found⟩, at_, same⟩ := Option.map_eq_some_iff.mp h
  have named : name = key := by simpa using List.find?_some at_
  have among := List.mem_of_find?_eq_some at_
  rwa [named, show found = value from same] at among

/-- **Where no key stands twice, a member is what its key looks up.** -/
theorem lookup_eq_some_iff (once : (fields.map Prod.fst).Nodup) :
    lookup key fields = some value ↔ (key, value) ∈ fields := by
  refine ⟨mem_of_lookup, fun among => ?_⟩
  induction fields with
  | nil => cases among
  | cons field rest ih =>
    obtain ⟨k, v⟩ := field
    rw [List.map_cons, List.nodup_cons] at once
    rw [lookup_cons]
    rcases List.mem_cons.mp among with same | behind
    · cases same
      exact if_pos rfl
    · have other : k ≠ key := fun same => once.1 (List.mem_map.mpr ⟨_, behind, same.symm⟩)
      rw [if_neg other]
      exact ih once.2 behind

/-! ## Words -/

/-- The numeral of a word is made of digits, if the word is a whole number. -/
def Lexeme.IsDecimal : Lexeme → Prop
  | .whole _ digits => digits.all Char.isDigit = true
  | _ => True

/-- **A number is read with its digits.** -/
theorem isDecimal_of_number {negative : Bool} {text rest : Text} {word : Lexeme}
    (h : number negative text = some (word, rest)) : word.IsDecimal := by
  unfold number at h
  dsimp only at h
  split_ifs at h
  · rw [← (Prod.mk.inj (Option.some.inj h)).1]
    -- the whole part is a zero, or a run of digits
    dsimp only [Lexeme.IsDecimal]
    split
    · rfl
    · exact List.all_takeWhile
  · exact (Prod.mk.inj (Option.some.inj h)).1 ▸ trivial

theorem isDecimal_lexeme (c : Char) (rest : Text) : (lexeme c rest).1.IsDecimal := by
  have numeral (negative : Bool) (text : Text) : ((number negative text).getD (.stray, [])).1.IsDecimal := by
    cases read : number negative text with
    | none => trivial
    | some found => exact isDecimal_of_number read
  unfold lexeme
  split
  case h_7 => split <;> trivial
  case h_8 =>
    split
    · trivial
    · exact numeral true rest
  case h_9 =>
    split
    · exact numeral false (c :: rest)
    · dsimp only
      split <;> trivial
  all_goals trivial

theorem isDecimal_lexemesFrom {fuel : Nat} {text : Text} {found : List Lexeme}
    (h : ∀ word ∈ found, word.IsDecimal) : ∀ word ∈ lexemesFrom fuel text found, word.IsDecimal := by
  induction fuel generalizing text found with
  | zero => exact fun word among => h word (List.mem_reverse.mp among)
  | succ fuel ih =>
    unfold lexemesFrom
    split
    · exact fun word among => h word (List.mem_reverse.mp among)
    · next c rest _ => exact ih (List.forall_mem_cons.mpr ⟨isDecimal_lexeme c rest, h⟩)

/-- **The numerals of a text are made of digits.** -/
theorem isDecimal_lexemes {text : Text} : ∀ word ∈ lexemes text, word.IsDecimal :=
  isDecimal_lexemesFrom nofun

/-! ## Values of words -/

variable {dialect : Dialect} {word : Lexeme}

/-- **What a single word may stand for**: an integer has as many digits as its word, and these are bounded as the
dialect bounds them. -/
inductive Scalar (dialect : Dialect) : Json → Prop where
  | null : Scalar dialect .null
  | bool (value : Bool) : Scalar dialect (.bool value)
  | float (value : Binary) : Scalar dialect (.float value)
  | string (text : Text) : Scalar dialect (.string text)
  | int {n : Int} {digits : Text} : digits.all Char.isDigit = true → n.natAbs = wholeNumber digits →
      dialect.maxDigits.any (· < digits.length) = false →
      (dialect.wordIntegers = true → wholeNumber digits ≤ 0xFFFFFFFFFFFFFFFF) → Scalar dialect (.int n)

theorem scalar_of_nameValue? {name : Text} (h : nameValue? dialect name = some value) : Scalar dialect value := by
  unfold nameValue? at h
  split_ifs at h <;> cases h
  · exact .null
  · exact .bool true
  · exact .bool false
  all_goals exact .float _

theorem scalar_of_fractionalValue {negative : Bool} {digits : Text} {exponent : Int}
    (h : fractionalValue dialect negative digits exponent = .ok value) : Scalar dialect value := by
  unfold fractionalValue at h
  split at h
  · split at h <;> cases h
    exact .float _
  · cases h
    exact .float _

/-- A whole numeral stands for a number of its digits, or is too wide and stands for a fractional one. -/
theorem scalar_of_wholeValue {negative : Bool} {digits : Text} (decimal : digits.all Char.isDigit = true)
    (h : wholeValue dialect negative digits = .ok value) : Scalar dialect value := by
  have bounded : (if negative then 0x8000000000000000 else 0xFFFFFFFFFFFFFFFF) ≤ 0xFFFFFFFFFFFFFFFF := by
    cases negative <;> decide
  unfold wholeValue at h
  dsimp only at h
  generalize (if negative then 0x8000000000000000 else 0xFFFFFFFFFFFFFFFF) = bound at bounded h
  split_ifs at h with long wide
  · exact scalar_of_fractionalValue h
  all_goals
    obtain rfl := Except.ok.inj h
    refine .int decimal (by simp) (Bool.eq_false_iff.mpr long) fun words => ?_
    simp only [words, Bool.true_and, decide_eq_true_eq, Nat.not_lt] at wide
    exact Nat.le_trans wide bounded

/-- **The value of a word** is what a single word may stand for. -/
theorem scalar_of_scalar? (decimal : word.IsDecimal) (h : scalar? dialect word = some (.ok value)) :
    Scalar dialect value := by
  cases word with
  | name text =>
    cases named : nameValue? dialect text with
    | none => simp [scalar?, named] at h
    | some found =>
      obtain rfl : found = value := by simpa [scalar?, named] using h
      exact scalar_of_nameValue? named
  | string units =>
    cases text : unitsText dialect.unpaired units [] with
    | none => simp [scalar?, text] at h
    | some text_ =>
      obtain rfl : Json.string text_ = value := by simpa [scalar?, text] using h
      exact .string text_
  | whole negative digits => exact scalar_of_wholeValue decimal (Option.some.inj h)
  | fractional negative digits exponent => exact scalar_of_fractionalValue (Option.some.inj h)
  | _ => cases h

/-! ## Values -/

/-- The members of an object each have a key of their own, and a value with the property. -/
structure Members (P : Json → Prop) (fields : List (Text × Json)) : Prop where
  once : (fields.map Prod.fst).Nodup
  values : ∀ field ∈ fields, P field.2

/-- **A property that a reader keeps**: what single words stand for has it, and arrays and objects if their parts
do. -/
structure Kept (dialect : Dialect) (P : Json → Prop) : Prop where
  scalar : ∀ {value}, Scalar dialect value → P value
  array : ∀ {items}, (∀ item ∈ items, P item) → P (.array items)
  object : ∀ {fields}, Members P fields → P (.object fields)

variable {P : Json → Prop}

theorem Members.nil : Members P [] := ⟨.nil, nofun⟩

theorem Members.insert (h : Members P fields) (holds : P value) : Members P (insert key value fields) where
  once := nodup_keys_insert h.once
  values _ among := (mem_insert among).elim (fun same => same ▸ holds) (h.values _)

/-- What an open bracket holds so far has the property. -/
def Frame.Holds (P : Json → Prop) : Frame → Prop
  | .array items => ∀ item ∈ items, P item
  | .object fields _ => Members P fields

/-- What a state holds has the property. -/
def State.Holds (P : Json → Prop) : State → Prop
  | .value stack | .firstItem stack | .firstKey stack => ∀ frame ∈ stack, frame.Holds P
  | .key stack fields | .colon stack fields _ => (∀ frame ∈ stack, frame.Holds P) ∧ Members P fields
  | .read stack value => (∀ frame ∈ stack, frame.Holds P) ∧ P value

namespace Kept

variable {stack : List Frame} {state next : State}

/-- A bracket that opens adds no value. -/
theorem opened (h : opened dialect stack state = .ok next) (holds : state.Holds P) : next.Holds P := by
  unfold Json.opened at h
  split at h <;> cases h
  exact holds

theorem beginValue (kept : Kept dialect P) (h : beginValue dialect stack word = .ok next) (decimal : word.IsDecimal)
    (holds : ∀ frame ∈ stack, frame.Holds P) : next.Holds P := by
  unfold Json.beginValue at h
  split at h
  · exact opened h holds
  · exact opened h holds
  · split at h
    · next written written_eq =>
      cases written <;> cases h
      exact ⟨holds, kept.scalar (scalar_of_scalar? decimal written_eq)⟩
    · cases h

theorem readKey (h : readKey dialect stack fields word = .ok next) (holds : ∀ frame ∈ stack, frame.Holds P)
    (members : Members P fields) : next.Holds P := by
  unfold Json.readKey at h
  split at h
  · split at h <;> cases h
    exact ⟨holds, members⟩
  · cases h

/-- **A word keeps the property** of what a state holds. -/
theorem step (kept : Kept dialect P) (decimal : word.IsDecimal) (holds : state.Holds P)
    (h : step dialect state word = .ok next) : next.Holds P := by
  unfold Json.step at h
  split at h
  -- the value of a member, the first item of an array
  · exact kept.beginValue h decimal holds
  · cases h
    exact ⟨holds, kept.array nofun⟩
  · exact kept.beginValue h decimal (List.forall_mem_cons.mpr ⟨nofun, holds⟩)
  -- the key of a member
  · cases h
    exact ⟨holds, kept.object .nil⟩
  · exact readKey h holds .nil
  · exact readKey h holds.1 holds.2
  · cases h
    exact List.forall_mem_cons.mpr holds.symm
  -- behind an item, behind a member
  · cases h
    obtain ⟨items, stack⟩ := List.forall_mem_cons.mp holds.1
    exact List.forall_mem_cons.mpr ⟨List.forall_mem_cons.mpr ⟨holds.2, items⟩, stack⟩
  · cases h
    obtain ⟨items, stack⟩ := List.forall_mem_cons.mp holds.1
    refine ⟨stack, kept.array fun item among => ?_⟩
    exact List.forall_mem_cons.mpr ⟨holds.2, items⟩ item (List.mem_reverse.mp among)
  · cases h
    obtain ⟨members, stack⟩ := List.forall_mem_cons.mp holds.1
    exact ⟨stack, Members.insert members holds.2⟩
  · cases h
    obtain ⟨members, stack⟩ := List.forall_mem_cons.mp holds.1
    exact ⟨stack, kept.object (Members.insert members holds.2)⟩
  · cases h

/-- Words one after another keep the property. -/
theorem foldlM_step {words : List Lexeme} (kept : Kept dialect P) (decimal : ∀ word ∈ words, word.IsDecimal)
    (holds : state.Holds P) (h : words.foldlM (Json.step dialect) state = .ok next) : next.Holds P := by
  induction words generalizing state with
  | nil =>
    cases h
    exact holds
  | cons word rest ih =>
    rw [List.forall_mem_cons] at decimal
    rw [List.foldlM_cons] at h
    cases stepped : Json.step dialect state word with
    | error fault =>
      rw [stepped] at h
      cases h
    | ok between =>
      rw [stepped] at h
      exact ih decimal.2 (kept.step decimal.1 holds stepped) h

/-- **A value that a text writes has the property.** -/
theorem parse {text : Text} (kept : Kept dialect P) (h : parse dialect text = .ok value) : P value := by
  unfold Json.parse at h
  cases run : (lexemes text).foldlM (Json.step dialect) (.value []) with
  | error fault =>
    rw [run] at h
    cases h
  | ok state =>
    have start : State.Holds P (.value []) := nofun
    have holds := kept.foldlM_step isDecimal_lexemes start run
    simp only [run, bind, Except.bind] at h
    split at h <;> cases h
    exact holds.2

end Kept

end QuerySignature.Json
