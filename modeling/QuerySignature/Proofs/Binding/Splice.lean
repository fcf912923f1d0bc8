import Mathlib.Data.List.Pairwise
import QuerySignature.Proofs.Binding.Slots
import QuerySignature.Proofs.Signature.Blocks

/-!
# Proofs/Binding/Splice — one replacement of all slots

The edits of slots are applied one after the other, from right to left, into a text whose offsets move;
`applyEdits_spliced` shows that this is one replacement of all pieces at once, since the blocks of a query stand one
behind the other.  `applyBindings_spliced` says what a filled text is, and which fault ends the filling.
-/

namespace QuerySignature

/-- **The text with the pieces replaced**, all at once, from a place on. -/
def spliced (text : Text) : (place : Int) → List Edit → Text
  | place, [] => text.drop place.toNat
  | place, edit :: edits =>
    Span.slice ⟨place, edit.span.start⟩ text ++ edit.replacement ++ spliced text edit.span.stop edits

/-! ## Edits from right to left -/

/-- Edits of pieces of a text that stand one behind the other. -/
structure EditsStand (text : Text) (edits : List Edit) : Prop where
  within : ∀ edit ∈ edits,
    0 ≤ edit.span.start ∧ edit.span.start < edit.span.stop ∧ edit.span.stop ≤ text.length
  ordered : edits.Pairwise fun a b => a.span.stop ≤ b.span.start

theorem EditsStand.tail {text : Text} {edit : Edit} {edits : List Edit} (h : EditsStand text (edit :: edits)) :
    EditsStand text edits :=
  ⟨fun edit member => h.within edit (.tail _ member), (List.pairwise_cons.mp h.ordered).2⟩

/-- Two edits that start at one place are one. -/
theorem EditsStand.eq_of_start {text : Text} {edits : List Edit} {a b : Edit} (h : EditsStand text edits)
    (first : a ∈ edits) (second : b ∈ edits) (same : a.span.start = b.span.start) : a = b := by
  have apart : edits.Pairwise fun a b => a.span.start ≠ b.span.start := by
    refine h.ordered.imp_of_mem fun {a b} member _ behind => ?_
    have := h.within a member
    omega
  have : Std.Symm fun a b : Edit => a.span.start ≠ b.span.start := ⟨fun _ _ other => other.symm⟩
  exact Decidable.byContradiction fun other => apart.forall first second other same

/-- Edits that stand one behind the other are sorted by reversing them. -/
theorem mergeSort_edits {text : Text} {edits : List Edit} (h : EditsStand text edits) :
    edits.mergeSort Edit.isBefore = edits.reverse := by
  have before {a b : Edit} : a.isBefore b = true ↔ b.span.start < a.span.start ∨
      b.span.start = a.span.start ∧ b.span.stop ≤ a.span.stop := by
    simp [Edit.isBefore]
  have descending : edits.reverse.Pairwise fun a b => a.isBefore b = true := by
    refine List.pairwise_reverse.mpr (h.ordered.imp_of_mem fun {a b} member _ apart => ?_)
    have := h.within a member
    rw [before]
    omega
  have sorted : (edits.mergeSort Edit.isBefore).Pairwise fun a b => a.isBefore b = true := by
    refine List.pairwise_mergeSort (fun a b c ab bc => ?_) (fun a b => ?_) edits
    · rw [before] at *
      omega
    · rw [Bool.or_eq_true, before, before]
      omega
  refine List.Perm.eq_of_pairwise (fun a b first second ab ba => ?_) sorted descending
    ((List.mergeSort_perm ..).trans (List.reverse_perm _).symm)
  refine h.eq_of_start (List.mem_mergeSort.mp first) (List.mem_reverse.mp second) ?_
  rw [before] at ab ba
  omega

/-- The edits behind a place, applied to the last one first, leave what stands in front of it. -/
theorem foldr_apply {text : Text} {edits : List Edit} {place : Int} (h : EditsStand text edits) (pos : 0 ≤ place)
    (inside : place ≤ text.length) (behind : ∀ edit ∈ edits, place ≤ edit.span.start) :
    edits.foldr Edit.apply text = text.take place.toNat ++ spliced text place edits := by
  induction edits generalizing place with
  | nil => rw [List.foldr_nil, spliced, List.take_append_drop]
  | cons edit edits ih =>
    obtain ⟨start, proper, stop⟩ := h.within edit (.head _)
    have first := behind edit (.head _)
    have others := (List.pairwise_cons.mp h.ordered).1
    have further : edits.foldr Edit.apply text =
        text.take edit.span.stop.toNat ++ spliced text edit.span.stop edits :=
      ih h.tail (by omega) stop others
    have front : text.take edit.span.start.toNat =
        text.take place.toNat ++ Span.slice ⟨place, edit.span.start⟩ text := by
      rw [← List.take_append_drop place.toNat (text.take edit.span.start.toNat), List.take_take,
        Nat.min_eq_left (by omega)]
      rfl
    have whole : (text.take edit.span.stop.toNat).length = edit.span.stop.toNat :=
      List.length_take_of_le (by omega)
    rw [List.foldr_cons, further, Edit.apply, spliced, List.take_append_of_le_length (by omega), List.take_take,
      Nat.min_eq_left (by omega), front]
    rw [List.drop_append_of_le_length (Nat.le_of_eq whole.symm), List.drop_of_length_le (Nat.le_of_eq whole),
      List.nil_append]
    simp only [List.append_assoc]

/-- **Edits from right to left are one replacement** of all pieces at once. -/
theorem applyEdits_spliced {text : Text} {edits : List Edit} (h : EditsStand text edits) :
    applyEdits edits text = spliced text 0 edits := by
  rw [applyEdits, mergeSort_edits h, List.foldl_reverse]
  exact foldr_apply h (Int.le_refl 0) (Int.natCast_nonneg _) fun edit member => (h.within edit member).1

/-! ## Filled texts -/

/-- **What the slots come to**: an edit for each, or the fault of the first one that cannot be filled. -/
inductive Filling : List Slot → Except RenderingFault (List Edit) → Prop where
  | done {slots : List Slot} {edits : List Edit} : List.Forall₂ Slot.Fills slots edits → Filling slots (.ok edits)
  | refused {front back : List Slot} {slot : Slot} {fault : RenderingFault} :
      (∀ filled ∈ front, ∃ edit, filled.Fills edit) → slot.rendered = .error fault →
      Filling (front ++ slot :: back) (.error fault)

theorem Filling.cons {slot : Slot} {slots : List Slot} {edit : Edit} {edits : Except RenderingFault (List Edit)}
    (first : slot.Fills edit) (h : Filling slots edits) : Filling (slot :: slots) (edits.map (edit :: ·)) := by
  cases h with
  | done others => exact .done (.cons first others)
  | @refused front back _ _ filled error =>
    refine @Filling.refused (slot :: front) _ _ _ (fun other member => ?_) error
    rcases List.mem_cons.mp member with rfl | member
    · exact ⟨edit, first⟩
    · exact filled other member

theorem Filling.fills {slots : List Slot} {edits : List Edit} (h : Filling slots (.ok edits)) :
    List.Forall₂ Slot.Fills slots edits := by
  cases h with
  | done fills => exact fills

theorem steady_blockEdit? (sets : List BindingSet) (block : Values) : Rendering.Steady (blockEdit? sets block) := by
  unfold blockEdit?
  split
  · split
    · exact (steady_renderBlock block _).bind fun _ => .pure _
    · exact .pure _
  · exact .pure _

/-- A block has an edit if it has a slot. -/
theorem outcome_blockEdit? (sets : List BindingSet) (block : Values) :
    (blockEdit? sets block).outcome =
      match block.slot? sets with
      | some slot => slot.rendered.map fun text => some ⟨block.span, text⟩
      | none => .ok none := by
  unfold blockEdit? Values.slot?
  cases block.isOpen with
  | false => rfl
  | true =>
    cases chosenSet? sets block with
    | none => rfl
    | some set =>
      change ((renderBlock block set.rows) >>= _).outcome = (renderBlock block set.rows).outcome.map _
      rw [Rendering.outcome_bind fun _ => .pure _]
      cases (renderBlock block set.rows).outcome <;> rfl

/-- The edits of blocks fill their slots. -/
theorem filling_of_blocks (sets : List BindingSet) (blocks : List Values) :
    Filling (blocks.filterMap (Values.slot? sets))
      ((blocks.mapM fun block => (blockEdit? sets block).outcome).map (·.filterMap id)) := by
  induction blocks with
  | nil => exact .done .nil
  | cons block blocks ih =>
    rw [List.mapM_cons, List.filterMap_cons, outcome_blockEdit?]
    cases found : block.slot? sets with
    | none =>
      cases others : blocks.mapM fun block => (blockEdit? sets block).outcome <;> rw [others] at ih <;> exact ih
    | some slot =>
      dsimp only
      cases rendered : slot.rendered with
      | error error => exact @Filling.refused [] _ _ _ (fun _ none => nomatch none) rendered
      | ok text =>
        have first : slot.Fills ⟨block.span, text⟩ := ⟨by rw [(slot?_eq_some.mp found).block_eq], rendered⟩
        cases others : blocks.mapM fun block => (blockEdit? sets block).outcome <;> rw [others] at ih <;>
          exact ih.cons first

/-- What is written in place of slots stands where they stand. -/
theorem editsStand_of_fills {limits : Limits} {text : Text} {query : Query} {sets : List BindingSet}
    {slots : List Slot} {edits : List Edit} (h : query.BlocksStand limits text)
    (among : SlotsAmong sets query.blocks slots) (fills : List.Forall₂ Slot.Fills slots edits) :
    EditsStand text edits := by
  have spans : edits.map Edit.span = (slots.map Slot.block).map Values.span := by
    clear among
    induction fills with
    | nil => rfl
    | cons first _ ih => rw [List.map_cons, List.map_cons, List.map_cons, ih, first.1]
  have blocks := among.blocks_sublist
  constructor
  · intro edit member
    have inside := List.mem_map_of_mem (f := Edit.span) member
    rw [spans] at inside
    obtain ⟨block, inside, same⟩ := List.mem_map.mp inside
    rw [← same]
    exact h.within block (blocks.subset inside)
  · have ordered : (edits.map Edit.span).Pairwise fun a b => a.stop ≤ b.start := by
      rw [spans]
      exact List.pairwise_map.mpr (h.ordered.sublist blocks)
    exact List.pairwise_map.mp ordered

/-- **The outcome of a substitution**: the text with each slot replaced by what fills it, or the fault of the
first slot that cannot be filled. -/
theorem substitute_outcome {limits : Limits} {text : Text} {query : Query} (sets : List BindingSet)
    (h : query.BlocksStand limits text) :
    ∃ slots edits, SlotsAmong sets query.blocks slots ∧ Filling slots edits ∧
      (substitute text query sets).outcome = edits.map (spliced text 0) := by
  have filling := filling_of_blocks sets query.blocks
  have among : SlotsAmong sets query.blocks _ := slotsAmong_iff.mpr rfl
  refine ⟨_, _, among, filling, ?_⟩
  unfold substitute
  rw [Rendering.outcome_bind fun _ => .pure _, Rendering.outcome_mapM (steady_blockEdit? sets)]
  generalize query.blocks.mapM (m := Except RenderingFault) _ = edits at filling
  cases edits with
  | error fault => rfl
  | ok edits => exact congrArg Except.ok (applyEdits_spliced (editsStand_of_fills h among filling.fills))

/-- **Filling the slots of a text** replaces each of them in place and keeps every other character: the result
is one replacement of all slots, or the fault of the first one that cannot be filled.  Without slots the text
stays. -/
theorem applyBindings_spliced {limits : Limits} {text : Text} {bindings : Json} {query : Query}
    {documents : List Json} (parsed : parse limits text = .ok query)
    (given : bindings.documents? = some documents) :
    ∃ slots edits, SlotsAmong (loadedSets (BindingSet.ofDocuments documents)) query.blocks slots ∧
      Filling slots edits ∧
      (applyBindings limits text bindings).map Prod.fst =
        (edits.map (spliced text 0)).mapError .binding ∧
      (slots = [] → (applyBindings limits text bindings).map Prod.fst = .ok text) := by
  have blocks := parse_blocks parsed
  have steady (sets : List BindingSet) : Rendering.Steady (substitute text query sets) :=
    (Rendering.Steady.mapM (steady_blockEdit? sets) query.blocks).bind fun _ => .pure _
  obtain ⟨slots, edits, among, filling, outcome⟩ :=
    substitute_outcome (loadedSets (BindingSet.ofDocuments documents)) blocks
  have result : (applyBindings limits text bindings).map Prod.fst =
      (edits.map (spliced text 0)).mapError .binding := by
    rw [← outcome, ← steady _ (loadedWarnings (BindingSet.ofDocuments documents))]
    unfold applyBindings
    rw [parsed, given]
    dsimp only [Except.mapError, bind, Except.bind]
    cases (substitute text query _).run _ <;> rfl
  refine ⟨slots, edits, among, filling, result, ?_⟩
  rintro rfl
  rw [result]
  cases edits with
  | error fault =>
    generalize none_ : ([] : List Slot) = empty at filling
    cases filling
    exact absurd none_.symm (List.append_ne_nil_of_right_ne_nil _ (List.cons_ne_nil _ _))
  | ok edits =>
    cases filling.fills
    rfl

/-- A test with one slot and one row for it. -/
theorem applyBindings_spliced_ask :
    let text := "ASK { VALUES ?x { UNDEF } }".toList
    let binding := Json.object [("type".toList, .string "uri".toList), ("value".toList, .string "a".toList)]
    let bindings := Json.object [("arguments".toList, .array [.object [("x".toList, binding)]])]
    ∃ query documents, parse .standard text = .ok query ∧ bindings.documents? = some documents ∧
      ∃ slots edits, SlotsAmong (loadedSets (BindingSet.ofDocuments documents)) query.blocks slots ∧
        Filling slots edits ∧
        (applyBindings .standard text bindings).map Prod.fst =
          (edits.map (spliced text 0)).mapError .binding ∧
        (slots = [] → (applyBindings .standard text bindings).map Prod.fst = .ok text) :=
  ⟨⟨[], .ask (.pattern [.values ⟨["x".toList], [[.undef]], ⟨6, 25⟩⟩]) .empty none⟩, _, rfl, rfl,
    applyBindings_spliced (show parse .standard _ = _ from rfl) rfl⟩

end QuerySignature
