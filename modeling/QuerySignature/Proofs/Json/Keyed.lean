import QuerySignature.Proofs.Json.Kept

/-!
# Proofs/Json/Keyed — a value that is read has each key once

No object at any depth of a value that a text writes has one key twice (`Json.keyed_of_parse`).  A member is then what
its key looks up (`Json.lookup_eq_some_iff`), and a pass over the members meets each key at most once.
-/

namespace QuerySignature.Json

variable {value : Json} {fields : List (Text × Json)}

/-- **No object of the value has a key twice**, at any depth. -/
inductive Keyed : Json → Prop where
  /-- A value without parts. -/
  | plain {value : Json} : value.items? = none → value.fields? = none → Keyed value
  | array {items : List Json} : (∀ item ∈ items, Keyed item) → Keyed (.array items)
  | object {fields : List (Text × Json)} : (fields.map Prod.fst).Nodup → (∀ field ∈ fields, Keyed field.2) →
      Keyed (.object fields)

/-- The members of a keyed object. -/
theorem Keyed.members (h : (Json.object fields).Keyed) : Members Keyed fields := by
  cases h with
  | plain _ none => cases none
  | object once values => exact ⟨once, values⟩

/-- A value under a key is keyed. -/
theorem Keyed.get? {key : Text} {part : Json} (h : value.Keyed) (found : value.get? key = some part) : part.Keyed := by
  cases value with
  | object fields => exact h.members.values _ (mem_of_lookup found)
  | _ => cases found

/-- **The reader keeps the keys of each object apart.** -/
theorem kept_keyed {dialect : Dialect} : Kept dialect Keyed where
  scalar h := by cases h <;> exact .plain rfl rfl
  array := .array
  object members := .object members.once members.values

/-- **A value that a text writes has each key once.** -/
theorem keyed_of_parse {dialect : Dialect} {text : Text} (h : parse dialect text = .ok value) : value.Keyed :=
  kept_keyed.parse h

end QuerySignature.Json
