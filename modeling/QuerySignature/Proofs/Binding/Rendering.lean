import QuerySignature.Binding.Substitute

/-!
# Proofs/Binding/Rendering — writing, apart from its warnings

What a `Rendering` comes to does not depend on the warnings so far (`Rendering.Steady`), so a cell, a row and
a block each have one outcome, and a block comes to nothing but the outcomes of its cells
(`renderBlock_outcome`).
-/

namespace QuerySignature

namespace Rendering

variable {α β : Type}

/-- **What the writing comes to**, without its warnings. -/
def outcome (writing : Rendering α) : Except RenderingFault α :=
  (writing.run []).map Prod.fst

/-- **The warnings so far do not matter.** -/
def Steady (writing : Rendering α) : Prop :=
  ∀ warnings, (writing.run warnings).map Prod.fst = writing.outcome

/-- A text that there is, is written. -/
@[simp]
theorem textOf_some (text : Text) : textOf (some text) = pure text := rfl

theorem run_bind (first : Rendering α) (next : α → Rendering β) (warnings : List Warning) :
    (first >>= next).run warnings =
      match first.run warnings with
      | .ok (a, warnings) => (next a).run warnings
      | .error error => .error error := by
  rw [StateT.run_bind]
  cases first.run warnings <;> rfl

theorem bind_from {first : Rendering α} {next : α → Rendering β} (steady : ∀ a, Steady (next a))
    (warnings : List Warning) :
    ((first >>= next).run warnings).map Prod.fst =
      ((first.run warnings).map Prod.fst).bind fun a => (next a).outcome := by
  rw [run_bind]
  cases first.run warnings with
  | ok found => exact steady found.1 found.2
  | error error => rfl

theorem outcome_bind {first : Rendering α} {next : α → Rendering β} (steady : ∀ a, Steady (next a)) :
    (first >>= next).outcome = first.outcome.bind fun a => (next a).outcome :=
  bind_from steady []

namespace Steady

theorem pure (a : α) : Steady (pure a : Rendering α) := fun _ => rfl

theorem refuse (error : BindingError) : Steady (Rendering.refuse error : Rendering α) := fun _ => rfl

theorem textOf (text : Option Text) : Steady (Rendering.textOf text) := by
  cases text <;> exact fun _ => rfl

theorem warn (warning : Warning) : Steady (Rendering.warn warning) := fun _ => rfl

theorem bind {first : Rendering α} {next : α → Rendering β} (h : Steady first) (h' : ∀ a, Steady (next a)) :
    Steady (first >>= next) := by
  intro warnings
  rw [bind_from h', h warnings, outcome_bind h']

theorem mapM {write : α → Rendering β} (h : ∀ a, Steady (write a)) (list : List α) : Steady (list.mapM write) := by
  induction list with
  | nil => exact .pure []
  | cons a list ih =>
    rw [List.mapM_cons]
    exact (h a).bind fun _ => ih.bind fun _ => .pure _

end Steady

theorem outcome_mapM {write : α → Rendering β} (h : ∀ a, Steady (write a)) (list : List α) :
    (list.mapM write).outcome = list.mapM fun a => (write a).outcome := by
  induction list with
  | nil => rfl
  | cons a list ih =>
    rw [List.mapM_cons, List.mapM_cons, outcome_bind fun _ => (Steady.mapM h list).bind fun _ => .pure _]
    refine congrArg _ (funext fun b => ?_)
    rw [outcome_bind fun _ => .pure _, ih]
    rfl

end Rendering

open Rendering

/-! ## Cells, rows and blocks -/

theorem steady_renderIri (name iri : Text) : Steady (renderIri name iri) := by
  unfold renderIri
  split
  · exact .pure _
  · exact .refuse _

theorem steady_renderLiteral (name : Text) (binding value : Json) : Steady (renderLiteral name binding value) := by
  refine (Steady.textOf _).bind fun string => ?_
  dsimp only
  split
  · refine (Steady.textOf _).bind fun tag => ?_
    split
    · exact .pure _
    · exact (Steady.textOf _).bind fun _ => .refuse _
  · split
    · exact (Steady.textOf _).bind fun _ => (steady_renderIri name _).bind fun _ => .pure _
    · exact .pure _

theorem steady_renderUntyped (name : Text) (type : Json) : Steady (renderUntyped name type) :=
  (Steady.textOf _).bind fun _ => (Steady.warn _).bind fun _ => .pure _

theorem steady_renderTyped (name : Text) (binding value : Json) : Steady (renderTyped name binding value) := by
  unfold renderTyped
  dsimp only
  split
  · exact steady_renderUntyped name _
  · split
    · exact (Steady.textOf _).bind fun _ => steady_renderIri name _
    · split
      · exact steady_renderLiteral name binding value
      · exact steady_renderUntyped name _

theorem steady_renderBinding (name : Text) (binding : Option Json) : Steady (renderBinding name binding) := by
  unfold renderBinding
  split
  · exact .pure _
  · split
    · exact (Steady.textOf _).bind fun _ => (Steady.warn _).bind fun _ => .pure _
    · split
      · exact .refuse _
      · split
        · exact (Steady.warn _).bind fun _ => .pure _
        · exact (Steady.warn _).bind fun _ => .pure _
        · exact steady_renderTyped name _ _

theorem steady_renderRow (vars : List Text) (row : Row) : Steady (renderRow vars row) :=
  .mapM (fun name => steady_renderBinding name _) vars

theorem steady_renderBlock (block : Values) (rows : List Row) : Steady (renderBlock block rows) :=
  (Steady.mapM (steady_renderRow block.vars) rows).bind fun _ => .pure _

/-- What the cells of a row come to. -/
def rowCells (vars : List Text) (row : Row) : Except RenderingFault (List Text) :=
  vars.mapM fun name => (renderBinding name (Json.lookup name row)).outcome

/-- **A block comes to its kept rows and the outcomes of its cells.** -/
theorem renderBlock_outcome (block : Values) (rows : List Row) :
    (renderBlock block rows).outcome =
      (rows.mapM (rowCells block.vars)).map fun cells => writtenBlock block.vars (keptRows block ++ cells) := by
  have cells (row : Row) : (renderRow block.vars row).outcome = rowCells block.vars row :=
    outcome_mapM (fun name => steady_renderBinding name _) _
  unfold renderBlock
  rw [outcome_bind fun _ => .pure _, outcome_mapM (steady_renderRow block.vars), funext cells]
  cases rows.mapM (rowCells block.vars) <;> rfl

end QuerySignature
