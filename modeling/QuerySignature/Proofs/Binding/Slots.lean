import QuerySignature.Proofs.Binding.Rendering
import QuerySignature.Proofs.Signature.Occurrences

/-!
# Proofs/Binding/Slots — which blocks are filled, and from which set

A set fills a block if it has rows and each variable of the block.  An open block with a set that fills it is a slot,
and the rows of the slot are those of the first such set (`Values.HasSlot`).  The slots among some blocks are those of
each of them, in order (`SlotsAmong`).  `Values.slot?` computes the slot of a block by the set that the program
chooses, which is the first (`chosenSet?_eq_some`).
-/

namespace QuerySignature

/-- **The set fills the block**: it has rows, and each variable of the block. -/
def BindingSet.Fills (set : BindingSet) (block : Values) : Prop :=
  set.rows ≠ [] ∧ ∀ name ∈ block.vars, name ∈ set.vars

/-- **The first of some sets that fills a block.** -/
def BindingSet.FirstFilling (sets : List BindingSet) (block : Values) (set : BindingSet) : Prop :=
  ∃ before after, sets = before ++ set :: after ∧ set.Fills block ∧ ∀ other ∈ before, ¬other.Fills block

/-- **A slot**: an open block and the rows that fill it. -/
structure Slot where
  block : Values
  rows : List Row

/-- **The block has a slot**: it is open, and the rows are those of the first set that fills it. -/
inductive Values.HasSlot (sets : List BindingSet) (block : Values) : Slot → Prop where
  | first {set : BindingSet} : block.isOpen = true → BindingSet.FirstFilling sets block set →
      HasSlot sets block ⟨block, set.rows⟩

/-- **The slots among some blocks**, in the order of the blocks. -/
inductive SlotsAmong (sets : List BindingSet) : List Values → List Slot → Prop where
  | nil : SlotsAmong sets [] []
  | slot {block : Values} {slot : Slot} {blocks : List Values} {slots : List Slot} : block.HasSlot sets slot →
      SlotsAmong sets blocks slots → SlotsAmong sets (block :: blocks) (slot :: slots)
  | kept {block : Values} {blocks : List Values} {slots : List Slot} : (∀ slot, ¬block.HasSlot sets slot) →
      SlotsAmong sets blocks slots → SlotsAmong sets (block :: blocks) slots

/-- The text of a slot that is filled. -/
def Slot.rendered (slot : Slot) : Except RenderingFault Text :=
  (renderBlock slot.block slot.rows).outcome

/-- The edit fills the slot. -/
def Slot.Fills (slot : Slot) (edit : Edit) : Prop :=
  edit.span = slot.block.span ∧ slot.rendered = .ok edit.replacement

variable {sets : List BindingSet} {block : Values} {blocks : List Values} {set : BindingSet} {slot : Slot}
  {slots : List Slot}

/-! ## The set that is chosen -/

theorem fills_iff : (!set.rows.isEmpty && set.covers block.group) = true ↔ set.Fills block := by
  simp [BindingSet.Fills, BindingSet.covers, Values.group, mem_addNames]

/-- **The set that is chosen is the first that fills the block.** -/
theorem chosenSet?_eq_some : chosenSet? sets block = some set ↔ BindingSet.FirstFilling sets block set := by
  have misses (set : BindingSet) :
      (!(!set.rows.isEmpty && set.covers block.group)) = true ↔ ¬set.Fills block := by
    rw [Bool.not_eq_true', Bool.eq_false_iff, Ne, fills_iff]
  simp only [chosenSet?, List.find?_eq_some_iff_append, fills_iff, misses]
  constructor
  · rintro ⟨fills, before, after, whole, others⟩
    exact ⟨before, after, whole, fills, others⟩
  · rintro ⟨before, after, whole, fills, others⟩
    exact ⟨fills, before, after, whole, others⟩

/-- **None is chosen if none fills the block.** -/
theorem chosenSet?_eq_none : chosenSet? sets block = none ↔ ∀ set ∈ sets, ¬set.Fills block := by
  rw [chosenSet?, List.find?_eq_none]
  simp only [fills_iff]

/-! ## Slots, computed -/

/-- The slot of a block, by the set that is chosen for it. -/
def Values.slot? (sets : List BindingSet) (block : Values) : Option Slot :=
  if block.isOpen then (chosenSet? sets block).map fun set => ⟨block, set.rows⟩ else none

theorem slot?_eq_some : block.slot? sets = some slot ↔ block.HasSlot sets slot := by
  constructor
  · intro h
    unfold Values.slot? at h
    split at h
    · next isOpen =>
      obtain ⟨set, chosen, rfl⟩ := Option.map_eq_some_iff.mp h
      exact .first isOpen (chosenSet?_eq_some.mp chosen)
    · cases h
  · rintro ⟨isOpen, first⟩
    rw [Values.slot?, if_pos isOpen, chosenSet?_eq_some.mpr first]
    rfl

theorem slot?_eq_none : block.slot? sets = none ↔ ∀ slot, ¬block.HasSlot sets slot := by
  simp only [Option.eq_none_iff_forall_ne_some, ne_eq, slot?_eq_some]

/-- A slot is one of its block. -/
theorem Values.HasSlot.block_eq (h : block.HasSlot sets slot) : slot.block = block := by
  cases h
  rfl

/-- **The slots among blocks** are computed one by one. -/
theorem slotsAmong_iff : SlotsAmong sets blocks slots ↔ slots = blocks.filterMap (Values.slot? sets) := by
  constructor
  · intro h
    induction h with
    | nil => rfl
    | slot has _ ih => rw [List.filterMap_cons_some (slot?_eq_some.mpr has), ih]
    | kept none_ _ ih => rw [List.filterMap_cons_none (slot?_eq_none.mpr none_), ih]
  · rintro rfl
    induction blocks with
    | nil => exact .nil
    | cons block blocks ih =>
      cases found : block.slot? sets with
      | none =>
        rw [List.filterMap_cons_none found]
        exact .kept (slot?_eq_none.mp found) ih
      | some slot =>
        rw [List.filterMap_cons_some found]
        exact .slot (slot?_eq_some.mp found) ih

namespace SlotsAmong

/-- A slot among blocks is one of a block among them. -/
theorem exists_block (h : SlotsAmong sets blocks slots) (member : slot ∈ slots) :
    ∃ block ∈ blocks, block.HasSlot sets slot := by
  induction h with
  | nil => cases member
  | slot has _ ih =>
    rcases List.mem_cons.mp member with rfl | behind
    · exact ⟨_, .head _, has⟩
    · obtain ⟨block, among, has⟩ := ih behind
      exact ⟨block, .tail _ among, has⟩
  | kept _ _ ih =>
    obtain ⟨block, among, has⟩ := ih member
    exact ⟨block, .tail _ among, has⟩

/-- Slots stand in the order of their blocks. -/
theorem blocks_sublist (h : SlotsAmong sets blocks slots) : (slots.map Slot.block).Sublist blocks := by
  induction h with
  | nil => exact .slnil
  | slot has _ ih =>
    rw [List.map_cons, has.block_eq]
    exact ih.cons_cons _
  | kept _ _ ih => exact ih.cons _

end SlotsAmong

end QuerySignature
