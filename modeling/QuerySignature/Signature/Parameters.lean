import QuerySignature.Json.Basic
import QuerySignature.Signature.Blocks
import QuerySignature.Text.Decimal

/-!
# Signature/Parameters — the slots of a stored query

A stored query marks the places that a caller fills in: inline data blocks with an open row, and numbers
behind `LIMIT` and `OFFSET` that are written with three leading zeros.  Only the outermost `LIMIT` and
`OFFSET` count.
-/

namespace QuerySignature

/-- **The numeral marks a slot**: three zeros and at least one more digit, before the end or one line feed
at the very end. -/
def isSlotNumeral : Text → Bool
  | '0' :: '0' :: '0' :: rest =>
    let digits := rest.takeWhile Text.isDecimal
    !digits.isEmpty && (rest.drop digits.length == [] || rest.drop digits.length == ['\n'])
  | _ => false

/-- The clause marks a slot. -/
def Slice.isSlot (slice : Slice) : Bool :=
  isSlotNumeral slice.lexical

/-- The clause as written. -/
def Slice.text (slice : Slice) : Text :=
  slice.keyword ++ ' ' :: slice.lexical

/-- **The slots of a query.** -/
structure Parameters where
  groups : List (List Text)
  limits : List Text
  offsets : List Text
  deriving DecidableEq, Repr

namespace Parameters

/-- There is no slot. -/
def isEmpty (parameters : Parameters) : Bool :=
  parameters.groups.isEmpty && parameters.limits.isEmpty && parameters.offsets.isEmpty

/-- The slots as a JSON object. -/
def toJson (parameters : Parameters) : Json :=
  .object [("values_parameters".toList,
      .array (parameters.groups.map fun group => .array (group.map .string))),
    ("limit_parameters".toList, .array (parameters.limits.map .string)),
    ("offset_parameters".toList, .array (parameters.offsets.map .string))]

end Parameters

/-- The text of a clause that marks a slot. -/
def slotText (slice : Option Slice) : List Text :=
  ((slice.filter Slice.isSlot).map Slice.text).toList

/-- **The slots of a query.** -/
def Query.parameters (query : Query) : Parameters where
  groups := (query.blocks.filter Values.isOpen).map Values.group
  limits := slotText query.modifiers.limit
  offsets := slotText query.modifiers.offset

end QuerySignature
