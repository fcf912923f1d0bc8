import QuerySignature.Json.Basic

/-!
# Limits — the ceilings of a reading

`Limits` bounds the length of a text, the number of its tokens and the depth of its brackets.  Each
ceiling is positive and the depth is at most `Limits.deepest`; both are part of the type.  `Limits.check`
builds limits from JSON values and names the first ceiling that does not fit.
-/

namespace QuerySignature

/-- **The ceilings of a reading.** -/
structure Limits where
  maxDepth : Nat
  maxInputLength : Nat
  maxTokens : Nat
  maxDepth_pos : 0 < maxDepth := by decide
  maxInputLength_pos : 0 < maxInputLength := by decide
  maxTokens_pos : 0 < maxTokens := by decide
  maxDepth_le : maxDepth ≤ 250 := by decide
  deriving DecidableEq

namespace Limits

/-- The greatest depth that limits may admit. -/
def deepest : Nat := 250

/-- The limits that hold where none are given. -/
def standard : Limits where
  maxDepth := 200
  maxInputLength := 1000000
  maxTokens := 250000

/-- The names of the ceilings, in the order in which they are checked. -/
inductive Field where
  | maxDepth
  | maxInputLength
  | maxTokens
  deriving DecidableEq

/-- The key of a ceiling. -/
def Field.key : Field → Text
  | maxDepth => "max_depth".toList
  | maxInputLength => "max_input_length".toList
  | maxTokens => "max_tokens".toList

/-- Every ceiling, in the order in which they are checked. -/
def Field.all : List Field := [.maxDepth, .maxInputLength, .maxTokens]

/-- **Why values do not make limits.** -/
inductive Fault where
  /-- A key names no ceiling. -/
  | unknownKey (key : Text)
  /-- A ceiling is not a positive integer. -/
  | notPositive (field : Field) (value : Json)
  /-- The depth is beyond `deepest`. -/
  | tooDeep (depth : Nat)

/-- The wording of a fault, unless it has to show an integer that is too long to be written. -/
def Fault.message? : Fault → Option Text
  | unknownKey key => some ("unknown ceiling ".toList ++ Text.quoted key)
  | notPositive field value =>
    value.shown?.map fun shown => field.key ++ " must be a positive integer, got ".toList ++ shown
  | tooDeep depth =>
    (Text.decimal? depth).map fun depth =>
      "max_depth ".toList ++ depth ++ " exceeds supported maximum of ".toList ++ Text.ofNat deepest

/-- A value as a positive integer. -/
def positive? : Json → Option { n : Nat // 0 < n }
  | .int (.ofNat (n + 1)) => some ⟨n + 1, n.succ_pos⟩
  | _ => none

/-- A ceiling from its value. -/
def ceiling (field : Field) (value : Json) : Except Fault { n : Nat // 0 < n } :=
  match positive? value with
  | some n => .ok n
  | none => .error (.notPositive field value)

/-- **Limits from the value of each ceiling.** -/
def check (value : Field → Json) : Except Fault Limits := do
  let depth ← ceiling .maxDepth (value .maxDepth)
  let length ← ceiling .maxInputLength (value .maxInputLength)
  let tokens ← ceiling .maxTokens (value .maxTokens)
  if h : depth.1 ≤ 250 then
    return ⟨depth.1, length.1, tokens.1, depth.2, length.2, tokens.2, h⟩
  else throw (.tooDeep depth.1)

/-- A ceiling by its name. -/
def get (limits : Limits) : Field → Nat
  | .maxDepth => limits.maxDepth
  | .maxInputLength => limits.maxInputLength
  | .maxTokens => limits.maxTokens

/-- The limits with the ceilings that the members name; other members are ignored. -/
def overridden (limits : Limits) (members : List (Text × Json)) : Except Fault Limits :=
  check fun field => (Json.lookup field.key members).getD (.int (limits.get field))

/-- **Limits from the members of an object**: each names a ceiling, and a ceiling that is not named has
its standard value. -/
def ofMembers (members : List (Text × Json)) : Except Fault Limits :=
  match members.find? fun member => Field.all.all (·.key != member.1) with
  | some (key, _) => .error (.unknownKey key)
  | none => standard.overridden members

/-- Limits with the members of their ceilings in order. -/
def toJson (limits : Limits) : Json :=
  .object (Field.all.map fun field => (field.key, .int (limits.get field)))

end Limits

end QuerySignature
