import QuerySignature.Query.Pattern

/-!
# Signature/Outputs — the columns of a selection

The outputs of a query are the names its outermost selection projects, each once.  A star stands for the
variables that the pattern can bind, in the order in which they first occur: `Group.addBound` walks the
pattern and adds each name that is not there yet.  `MINUS` and `FILTER` bind nothing; an inner selection
binds what it projects.
-/

namespace QuerySignature

/-- The names with one more at the end, unless it is there. -/
def addName (names : List Text) (name : Text) : List Text :=
  if names.contains name then names else names ++ [name]

/-- The names with more at the end, each that is not there. -/
def addNames (names more : List Text) : List Text :=
  more.foldl addName names

/-- The name under which a column is projected. -/
def Projection.name : Projection → Text
  | .var name => name
  | .aliased _ name => name

mutual

/-- **The names with the variables added that a group can bind.** -/
def Group.addBound : Group → List Text → List Text
  | .pattern elements, names => Element.addBoundAll elements names
  | .selection inner, names => addNames names inner.outputs

/-- The names with the variables added that elements can bind. -/
def Element.addBoundAll : List Element → List Text → List Text
  | [], names => names
  | element :: rest, names => Element.addBoundAll rest (element.addBound names)

/-- The names with the variables added that an element can bind. -/
def Element.addBound : Element → List Text → List Text
  | .triple triple, names => addNames names triple.vars
  | .values block, names => addNames names block.vars
  | .filter _, names => names
  | .optional group, names => group.addBound names
  | .nested group, names => group.addBound names
  | .union first second others, names =>
    Group.addBoundAll others (second.addBound (first.addBound names))
  | .minus _, names => names
  | .graph target group, names => group.addBound (addNames names target.vars)
  | .service _ _ group, names => group.addBound names
  | .bind _ name, names => addName names name

/-- The names with the variables added that any of the groups can bind. -/
def Group.addBoundAll : List Group → List Text → List Text
  | [], names => names
  | group :: rest, names => Group.addBoundAll rest (group.addBound names)

/-- The names that an inner selection projects, each once. -/
def SubSelect.outputs : SubSelect → List Text
  | ⟨⟨.everything, _⟩, group, _, _⟩ => group.addBound []
  | ⟨⟨.listed list, _⟩, _, _, _⟩ => addNames [] (list.map Projection.name)

end

/-- **The variables that a group can bind**, in the order in which they first occur. -/
def Group.boundVariables (group : Group) : List Text :=
  group.addBound []

/-- The names that a selection of a group projects, each once. -/
def Selection.outputs (selection : Selection) (group : Group) : List Text :=
  match selection.projections with
  | .everything => group.boundVariables
  | .listed list => addNames [] (list.map Projection.name)

/-- **The outputs of a query**; only a selection has any. -/
def Query.outputs (query : Query) : List Text :=
  match query.body with
  | .select selection group _ _ => selection.outputs group
  | _ => []

end QuerySignature
