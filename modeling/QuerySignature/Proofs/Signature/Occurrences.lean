import QuerySignature.Proofs.Signature.Outputs

/-!
# Proofs/Signature/Occurrences — outputs are the names that occur, each once

    ?b ?p [ ?q ?b ]  OPTIONAL { VALUES (?a ?b) { } }  MINUS { ?m ?p ?n }        ?b ?p ?q ?b ?a ?b

The names that occur in a group are those of its elements one after the other, repetitions included
(`Group.occurrences`).  The walk that adds each name unless it is there comes to these names without repetitions
(`Group.addBound_eq`): a walk that starts with nothing inside an inner selection adds what the selection projects.  So
the outputs of a query are its projected names, each where it occurs first, and leaving out what binds nothing changes
none of them (`Query.outputs_occurrences`).
-/

namespace QuerySignature

variable {names more : List Text} {name : Text}

/-! ## Names that occur -/

mutual

/-- **The names that occur where a group binds**, in order, repetitions included. -/
def Group.occurrences : Group → List Text
  | .pattern elements => Element.occurrencesOfAll elements
  | .selection inner => inner.projected

/-- The names that occur in elements. -/
def Element.occurrencesOfAll : List Element → List Text
  | [] => []
  | element :: rest => element.occurrences ++ Element.occurrencesOfAll rest

/-- The names that occur where an element binds. -/
def Element.occurrences : Element → List Text
  | .triple triple => triple.vars
  | .values block => block.vars
  | .filter _ => []
  | .optional group => group.occurrences
  | .nested group => group.occurrences
  | .union first second others => first.occurrences ++ second.occurrences ++ Group.occurrencesOfAll others
  | .minus _ => []
  | .graph target group => target.vars ++ group.occurrences
  | .service _ _ group => group.occurrences
  | .bind _ name => [name]

/-- The names that occur in groups. -/
def Group.occurrencesOfAll : List Group → List Text
  | [] => []
  | group :: rest => group.occurrences ++ Group.occurrencesOfAll rest

/-- The names that an inner selection projects; a star projects those of its group. -/
def SubSelect.projected : SubSelect → List Text
  | ⟨⟨.everything, _⟩, group, _, _⟩ => group.occurrences
  | ⟨⟨.listed list, _⟩, _, _, _⟩ => list.map Projection.name

end

/-- The names that a selection of a group projects. -/
def Selection.projected (selection : Selection) (group : Group) : List Text :=
  match selection.projections with
  | .everything => group.occurrences
  | .listed list => list.map Projection.name

/-- **The names that a query projects**; only a selection projects any. -/
def Query.projected (query : Query) : List Text :=
  match query.body with
  | .select selection group _ _ => selection.projected group
  | _ => []

/-! ## Names added one by one -/

theorem addNames_append (names first second : List Text) :
    addNames names (first ++ second) = addNames (addNames names first) second :=
  List.foldl_append

theorem addName_of_mem (member : name ∈ names) : addName names name = names :=
  if_pos (List.contains_iff_mem.mpr member)

theorem addName_of_not_mem (new : name ∉ names) : addName names name = names ++ [name] :=
  if_neg (mt List.contains_iff_mem.mp new)

/-- **Names are added at the end**, each once, without those that are there. -/
theorem addNames_eq (names more : List Text) : addNames names more = names ++ (more.removeAll names).eraseDups := by
  induction more generalizing names with
  | nil => exact (List.append_nil names).symm
  | cons name more ih =>
    change addNames (addName names name) more = _
    by_cases member : name ∈ names
    · rw [addName_of_mem member, ih, List.cons_removeAll, if_neg (by simpa using member)]
    · have behind : more.removeAll (names ++ [name]) = (more.removeAll names).filter fun other => !other == name := by
        unfold List.removeAll
        rw [List.filter_filter]
        refine List.filter_congr fun other _ => ?_
        by_cases same : other = name <;> simp [same]
      rw [addName_of_not_mem member, ih, List.cons_removeAll, if_pos (by simpa using member), List.eraseDups_cons,
        behind, List.append_assoc]
      rfl

/-- Names added to none are the names, each once. -/
theorem addNames_nil_eq (more : List Text) : addNames [] more = more.eraseDups := by
  rw [addNames_eq, List.nil_append]
  simp [List.removeAll]

theorem mem_addNames : name ∈ addNames names more ↔ name ∈ names ∨ name ∈ more := by
  induction more generalizing names with
  | nil => simp [addNames]
  | cons first more ih =>
    change name ∈ addNames (addName names first) more ↔ _
    have added : name ∈ addName names first ↔ name ∈ names ∨ name = first := by
      by_cases member : first ∈ names
      · rw [addName_of_mem member]
        exact ⟨.inl, fun either => either.elim id fun same => same ▸ member⟩
      · rw [addName_of_not_mem member, List.mem_append, List.mem_singleton]
    rw [ih, added, or_assoc, List.mem_cons]

/-- **Names that have been added to others first** are added like the others and they. -/
theorem addNames_addNames (names found more : List Text) :
    addNames names (addNames found more) = addNames (addNames names found) more := by
  induction more generalizing found with
  | nil => rfl
  | cons name more ih =>
    change addNames names (addNames (addName found name) more) = addNames (addName (addNames names found) name) more
    rw [ih]
    congr 1
    by_cases member : name ∈ found
    · rw [addName_of_mem member, addName_of_mem (mem_addNames.mpr (.inr member))]
    · rw [addName_of_not_mem member, addNames_append]
      rfl

/-! ## What a walk adds -/

mutual

/-- **A walk adds the names that occur.** -/
theorem Group.addBound_eq : ∀ (group : Group) (names : List Text), group.addBound names = addNames names group.occurrences
  | .pattern elements, names => Element.addBoundAll_eq elements names
  | .selection inner, names => by
    rw [Group.addBound, Group.occurrences, SubSelect.outputs_projected inner, addNames_addNames]
    rfl
termination_by structural group => group

theorem Element.addBoundAll_eq : ∀ (elements : List Element) (names : List Text),
    Element.addBoundAll elements names = addNames names (Element.occurrencesOfAll elements)
  | [], _ => rfl
  | element :: rest, names => by
    rw [Element.addBoundAll, Element.addBound_eq element, Element.addBoundAll_eq rest, Element.occurrencesOfAll,
      addNames_append]
termination_by structural elements => elements

theorem Element.addBound_eq : ∀ (element : Element) (names : List Text),
    element.addBound names = addNames names element.occurrences
  | .triple _, _ => rfl
  | .values _, _ => rfl
  | .filter _, _ => rfl
  | .optional group, names => Group.addBound_eq group names
  | .nested group, names => Group.addBound_eq group names
  | .union first second others, names => by
    rw [Element.addBound, Element.occurrences, Group.addBound_eq first, Group.addBound_eq second,
      Group.addBoundAll_eq others, addNames_append, addNames_append]
  | .minus _, _ => rfl
  | .graph target group, names => by
    rw [Element.addBound, Element.occurrences, Group.addBound_eq group, addNames_append]
  | .service _ _ group, names => Group.addBound_eq group names
  | .bind _ _, _ => rfl
termination_by structural element => element

theorem Group.addBoundAll_eq : ∀ (groups : List Group) (names : List Text),
    Group.addBoundAll groups names = addNames names (Group.occurrencesOfAll groups)
  | [], _ => rfl
  | group :: rest, names => by
    rw [Group.addBoundAll, Group.addBound_eq group, Group.addBoundAll_eq rest, Group.occurrencesOfAll, addNames_append]
termination_by structural groups => groups

theorem SubSelect.outputs_projected : ∀ inner : SubSelect, inner.outputs = addNames [] inner.projected
  | ⟨⟨.everything, _⟩, group, _, _⟩ => Group.addBound_eq group []
  | ⟨⟨.listed _, _⟩, _, _, _⟩ => rfl
termination_by structural inner => inner

end

theorem Group.boundVariables_eq (group : Group) : group.boundVariables = group.occurrences.eraseDups :=
  (Group.addBound_eq group []).trans (addNames_nil_eq _)

theorem Selection.outputs_eq (selection : Selection) (group : Group) :
    selection.outputs group = (selection.projected group).eraseDups := by
  obtain ⟨projections, duplicates⟩ := selection
  cases projections with
  | everything => exact Group.boundVariables_eq group
  | listed list => exact addNames_nil_eq _

/-! ## What binds nothing -/

mutual

/-- **The second group is the first without some `MINUS` and `FILTER` elements**, at any depth.  Inside expressions,
inside what is subtracted and behind an inner selection nothing is bound, so these may be changed in any way. -/
inductive Group.Pared : Group → Group → Prop where
  | pattern {elements elements' : List Element} : Element.ParedAll elements elements' →
      Group.Pared (.pattern elements) (.pattern elements')
  | everything (duplicates : Duplicates) {group group' : Group} (modifiers modifiers' : Modifiers)
      (values values' : Option Values) : Group.Pared group group' →
      Group.Pared (.selection ⟨⟨.everything, duplicates⟩, group, modifiers, values⟩)
        (.selection ⟨⟨.everything, duplicates⟩, group', modifiers', values'⟩)
  | listed (duplicates : Duplicates) {list list' : List Projection} {group group' : Group}
      (modifiers modifiers' : Modifiers) (values values' : Option Values) :
      list.map Projection.name = list'.map Projection.name → Group.Pared group group' →
      Group.Pared (.selection ⟨⟨.listed list, duplicates⟩, group, modifiers, values⟩)
        (.selection ⟨⟨.listed list', duplicates⟩, group', modifiers', values'⟩)

/-- Elements without some of them. -/
inductive Element.ParedAll : List Element → List Element → Prop where
  | nil : Element.ParedAll [] []
  | keep {element element' : Element} {rest rest' : List Element} : Element.Pared element element' →
      Element.ParedAll rest rest' → Element.ParedAll (element :: rest) (element' :: rest')
  | minus (group : Group) {rest rest' : List Element} : Element.ParedAll rest rest' →
      Element.ParedAll (.minus group :: rest) rest'
  | filter (expression : Expression) {rest rest' : List Element} : Element.ParedAll rest rest' →
      Element.ParedAll (.filter expression :: rest) rest'

/-- An element that stays, without some elements inside it. -/
inductive Element.Pared : Element → Element → Prop where
  | triple (triple : Triple) : Element.Pared (.triple triple) (.triple triple)
  | values (block : Values) : Element.Pared (.values block) (.values block)
  | filter (expression expression' : Expression) : Element.Pared (.filter expression) (.filter expression')
  | optional {group group' : Group} : Group.Pared group group' → Element.Pared (.optional group) (.optional group')
  | nested {group group' : Group} : Group.Pared group group' → Element.Pared (.nested group) (.nested group')
  | union {first second first' second' : Group} {others others' : List Group} : Group.Pared first first' →
      Group.Pared second second' → Group.ParedAll others others' →
      Element.Pared (.union first second others) (.union first' second' others')
  | minus (group group' : Group) : Element.Pared (.minus group) (.minus group')
  | graph (name : Target) {group group' : Group} : Group.Pared group group' →
      Element.Pared (.graph name group) (.graph name group')
  | service (silent : Bool) (endpoint : Target) {group group' : Group} : Group.Pared group group' →
      Element.Pared (.service silent endpoint group) (.service silent endpoint group')
  | bind (expression expression' : Expression) (name : Text) :
      Element.Pared (.bind expression name) (.bind expression' name)

/-- The branches of a union, each without some elements. -/
inductive Group.ParedAll : List Group → List Group → Prop where
  | nil : Group.ParedAll [] []
  | cons {group group' : Group} {rest rest' : List Group} : Group.Pared group group' → Group.ParedAll rest rest' →
      Group.ParedAll (group :: rest) (group' :: rest')

end

mutual

/-- **What is left out has no name.** -/
theorem Group.Pared.occurrences : ∀ {group group' : Group}, group.Pared group' → group'.occurrences = group.occurrences
  | _, _, .pattern elements => elements.occurrences
  | _, _, .everything _ _ _ _ _ group => group.occurrences
  | _, _, .listed _ _ _ _ _ names _ => names.symm

theorem Element.ParedAll.occurrences : ∀ {elements elements' : List Element}, Element.ParedAll elements elements' →
    Element.occurrencesOfAll elements' = Element.occurrencesOfAll elements
  | _, _, .nil => rfl
  | _, _, .keep element rest => congrArg₂ (· ++ ·) element.occurrences rest.occurrences
  | _, _, .minus _ rest => rest.occurrences
  | _, _, .filter _ rest => rest.occurrences

theorem Element.Pared.occurrences : ∀ {element element' : Element}, element.Pared element' →
    element'.occurrences = element.occurrences
  | _, _, .triple _ => rfl
  | _, _, .values _ => rfl
  | _, _, .filter _ _ => rfl
  | _, _, .optional group => group.occurrences
  | _, _, .nested group => group.occurrences
  | _, _, .union first second others =>
    congrArg₂ (· ++ ·) (congrArg₂ (· ++ ·) first.occurrences second.occurrences) others.occurrences
  | _, _, .minus _ _ => rfl
  | _, _, .graph name group => congrArg (name.vars ++ ·) group.occurrences
  | _, _, .service _ _ group => group.occurrences
  | _, _, .bind _ _ _ => rfl

theorem Group.ParedAll.occurrences : ∀ {groups groups' : List Group}, Group.ParedAll groups groups' →
    Group.occurrencesOfAll groups' = Group.occurrencesOfAll groups
  | _, _, .nil => rfl
  | _, _, .cons group rest => congrArg₂ (· ++ ·) group.occurrences rest.occurrences

end

end QuerySignature
