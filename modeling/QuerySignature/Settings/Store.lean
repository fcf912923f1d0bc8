import QuerySignature.Settings.Basic

/-!
# Settings/Store — the settings that a program shares

A program has at most one set of shared settings; it is made when first asked for (`shared`), and made anew
by `init`.  Beside it, the store keeps the settings that were handed out last: those may be the shared ones,
so that a change to one is a change to the other, or settings of their own.  When `init` fails behind the
making of new settings, those stay shared, and what was handed out before keeps its own values.
-/

namespace QuerySignature

/-- The settings that were handed out last. -/
inductive Handed where
  | nothing
  | shared
  | own (settings : Settings)

/-- **The settings of a program in its world.** -/
structure Store where
  world : World
  sharedSettings : Option Settings
  handed : Handed

/-- **Working with a store**: a fault leaves the changes made before it. -/
abbrev Storing (α : Type) := EStateM Settings.Fault Store α

namespace Store

/-- A store in a world, before any settings are made. -/
def ofWorld (world : World) : Store := ⟨world, none, .nothing⟩

/-- The settings that were handed out last. -/
def current? (store : Store) : Option Settings :=
  match store.handed with
  | .nothing => none
  | .shared => store.sharedSettings
  | .own settings => some settings

/-- What was handed out last is what is shared. -/
def isShared (store : Store) : Bool :=
  match store.handed with
  | .nothing => store.sharedSettings.isNone
  | .shared => true
  | .own _ => false

/-- The store with other current settings. -/
def setCurrent (store : Store) (settings : Settings) : Store :=
  match store.handed with
  | .shared => { store with sharedSettings := some settings }
  | _ => { store with handed := .own settings }

/-- The store with new shared settings; what was handed out keeps its values. -/
def replaceShared (store : Store) (settings : Settings) : Store :=
  { store with
    sharedSettings := some settings
    handed := match store.current? with
      | some old => .own old
      | none => .nothing }

end Store

namespace Storing

/-- Raises the fault of a value. -/
def raised (value : Except Settings.Fault α) : Storing α :=
  match value with
  | .ok a => pure a
  | .error fault => throw fault

/-- **Makes settings of their own**, from limits and from the world if `fromWorld` says so.  The number of
settings files that could not be read is the result here and below. -/
def make (limits : Limits) (fromWorld : Bool) : Storing Nat := do
  let base : Settings := ⟨limits, Settings.standard.logLevel⟩
  let (settings, failures) ←
    if fromWorld then raised (base.loadOver (← get).world) else pure (base, 0)
  modify ({ · with handed := .own settings })
  return failures

/-- **Hands out the shared settings**, made from the world if there are none. -/
def shared : Storing Nat := do
  match (← get).sharedSettings with
  | some _ =>
    modify ({ · with handed := .shared })
    return 0
  | none =>
    let (settings, failures) ← raised (Settings.load (← get).world)
    modify ({ · with sharedSettings := some settings, handed := .shared })
    return failures

/-- Changes the shared settings. -/
def updateShared (change : Settings.Updating) : Storing Unit := fun store =>
  match store.sharedSettings with
  | none => .ok () store
  | some settings =>
    match change settings with
    | .ok _ settings => .ok () { store with sharedSettings := some settings }
    | .error fault settings => .error fault { store with sharedSettings := some settings }

/-- **Makes the shared settings anew**, from the world and then from a named file if there is one. -/
def init (name : Option Text) : Storing Nat := do
  let store ← get
  let (settings, failures) ← raised (Settings.load store.world)
  set (store.replaceShared settings)
  match name.filter (!·.isEmpty) with
  | some name => updateShared (Settings.updateFromFile store.world name)
  | none => pure ()
  modify ({ · with handed := .shared })
  return failures

/-- **Applies a document to the current settings.**  Nothing has members to change before settings are handed
out. -/
def update (document : Json) : Storing Unit := fun store =>
  match store.current? with
  | none => .error .part store
  | some settings =>
    match Settings.update document settings with
    | .ok _ settings => .ok () (store.setCurrent settings)
    | .error fault settings => .error fault (store.setCurrent settings)

/-- **Writes the current settings to a file** and gives its text. -/
def save (name : Text) : Storing Text := do
  let store ← get
  match store.current? with
  | none => throw .part
  | some settings =>
    let path := Location.tidied name
    match store.world.obstacle? path with
    | some fault => throw (.file name fault)
    | none =>
      let world := store.world.makeFolders (Location.way path)
      set { store with world := world.write (.ofName path) settings.saved }
      return settings.saved

end Storing

end QuerySignature
