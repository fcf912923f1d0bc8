import Mathlib.Data.List.Nodup
import QuerySignature.Signature.Outputs

/-!
# Proofs/Signature/Outputs — outputs are listed once

Names are added one by one, each unless it is there, so no list of bound variables and no list of outputs has a name
twice (`Query.nodup_outputs`).  What an inner selection projects is therefore what a star around it projects
(`addNames_nil`).
-/

namespace QuerySignature

variable {names more : List Text}

theorem nodup_addName (once : names.Nodup) (name : Text) : (addName names name).Nodup := by
  unfold addName
  split
  · exact once
  · next new =>
    rw [List.contains_iff_mem] at new
    exact List.nodup_append'.mpr ⟨once, List.nodup_singleton name, List.disjoint_singleton.mpr new⟩

theorem nodup_addNames (once : names.Nodup) : (addNames names more).Nodup := by
  induction more generalizing names with
  | nil => exact once
  | cons name more ih => exact ih (nodup_addName once name)

/-- Names that are all new are added at the end. -/
theorem addNames_of_nodup (once : (names ++ more).Nodup) : addNames names more = names ++ more := by
  induction more generalizing names with
  | nil => exact (List.append_nil names).symm
  | cons name more ih =>
    have new : name ∉ names := fun member => (List.nodup_append'.mp once).2.2 member List.mem_cons_self
    have added : addName names name = names ++ [name] := if_neg (mt List.contains_iff_mem.mp new)
    rw [List.append_cons] at once ⊢
    rw [← ih once, ← added]
    rfl

/-- Names listed once are what they add to none. -/
theorem addNames_nil (once : more.Nodup) : addNames [] more = more :=
  addNames_of_nodup once

mutual

theorem Group.nodup_addBound : ∀ (group : Group) {names : List Text}, names.Nodup → (group.addBound names).Nodup
  | .pattern elements, _, once => Element.nodup_addBoundAll elements once
  | .selection _, _, once => nodup_addNames once
termination_by structural group => group

theorem Element.nodup_addBoundAll : ∀ (elements : List Element) {names : List Text}, names.Nodup →
    (Element.addBoundAll elements names).Nodup
  | [], _, once => once
  | element :: rest, _, once => Element.nodup_addBoundAll rest (Element.nodup_addBound element once)
termination_by structural elements => elements

theorem Element.nodup_addBound : ∀ (element : Element) {names : List Text}, names.Nodup →
    (element.addBound names).Nodup
  | .triple _, _, once => nodup_addNames once
  | .values _, _, once => nodup_addNames once
  | .filter _, _, once => once
  | .optional group, _, once => Group.nodup_addBound group once
  | .nested group, _, once => Group.nodup_addBound group once
  | .union first second others, _, once =>
    Group.nodup_addBoundAll others (Group.nodup_addBound second (Group.nodup_addBound first once))
  | .minus _, _, once => once
  | .graph _ group, _, once => Group.nodup_addBound group (nodup_addNames once)
  | .service _ _ group, _, once => Group.nodup_addBound group once
  | .bind _ name, _, once => nodup_addName once name
termination_by structural element => element

theorem Group.nodup_addBoundAll : ∀ (groups : List Group) {names : List Text}, names.Nodup →
    (Group.addBoundAll groups names).Nodup
  | [], _, once => once
  | group :: rest, _, once => Group.nodup_addBoundAll rest (Group.nodup_addBound group once)
termination_by structural groups => groups

end

theorem Selection.nodup_outputs (selection : Selection) (group : Group) : (selection.outputs group).Nodup := by
  unfold Selection.outputs
  split
  · exact Group.nodup_addBound group List.nodup_nil
  · exact nodup_addNames List.nodup_nil

/-- **Every output of a query is listed once.** -/
theorem Query.nodup_outputs (query : Query) : query.outputs.Nodup := by
  unfold Query.outputs
  split
  · exact Selection.nodup_outputs _ _
  · exact List.nodup_nil

/-- An inner selection projects what a query with its selection and its group does. -/
theorem SubSelect.outputs_eq (inner : SubSelect) : inner.outputs = inner.selection.outputs inner.group := by
  obtain ⟨⟨projections, _⟩, _, _, _⟩ := inner
  cases projections <;> rfl

end QuerySignature
