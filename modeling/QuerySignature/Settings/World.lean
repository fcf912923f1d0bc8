import QuerySignature.Text.Quoted

/-!
# Settings/World — the environment and the files around a program

A `World` is what a program can ask from outside: environment variables and text files.  A file is at a
`Location`: the steps from the home folder, the working folder or the root.  A name leads there step by step,
and each step must start from a folder (`World.follow`); `World.read` gives the text of the file that a name
leads to, or the reason why there is none.
-/

namespace QuerySignature

/-- Where the steps of a location start. -/
inductive Base where
  | home
  | working
  | root
  deriving DecidableEq, Repr

/-- **A location**: steps from a base, none of them empty or a single dot. -/
structure Location where
  base : Base
  steps : List Text
  deriving DecidableEq, Repr

namespace Location

/-- The folder around a location.  Outside its base, a location is known by its steps back. -/
def outer (location : Location) : Location :=
  if location.steps.all (· = ['.', '.']) then
    if location.base = .root then location else { location with steps := ['.', '.'] :: location.steps }
  else { location with steps := location.steps.dropLast }

/-- The location one step further; an empty step and a single dot stay in place. -/
def step (location : Location) (name : Text) : Location :=
  if name = [] ∨ name = ['.'] then location
  else if name = ['.', '.'] then location.outer
  else { location with steps := location.steps ++ [name] }

/-- Where a name starts: in the working folder unless it starts with a slash. -/
def start (name : Text) : Location :=
  ⟨if name.head? = some '/' then .root else .working, []⟩

/-- The steps of a name. -/
def stepsOf (name : Text) : List Text :=
  Text.separated (· = '/') name

/-- **The location of a name.** -/
def ofName (name : Text) : Location :=
  (stepsOf name).foldl step (start name)

/-- The locations that a name passes on its way, the last one around its own. -/
def way (name : Text) : List Location :=
  (List.range (stepsOf name).length).map fun n => ((stepsOf name).take n).foldl step (start name)

/-- A name in its shortest spelling: single slashes, no step that stays in place.  Two slashes in front are
kept. -/
def tidied (name : Text) : Text :=
  let steps := Text.joined ['/'] ((stepsOf name).filter fun step => step ≠ [] ∧ step ≠ ['.'])
  match (name.takeWhile (· = '/')).length with
  | 0 => if steps.isEmpty then ['.'] else steps
  | 2 => '/' :: '/' :: steps
  | _ => '/' :: steps

/-- The location is another one or inside it. -/
def isWithin (inner outer : Location) : Bool :=
  inner.base = outer.base && outer.steps.isPrefixOf inner.steps

/-- The folders on the way to a location. -/
def parents (location : Location) : List Location :=
  (List.range location.steps.length).map fun n => ⟨location.base, location.steps.take n⟩

end Location

/-- **What a program can ask from outside.** -/
structure World where
  environment : List (Text × Text)
  files : List (Location × Text)
  folders : List Location

/-- Why there is no text at a location. -/
inductive FileFault where
  /-- There is nothing. -/
  | missing
  /-- There is a folder. -/
  | folder
  /-- A step starts from a file. -/
  | blocked
  /-- A file stands where a folder is to be made. -/
  | occupied
  deriving DecidableEq, Repr

/-- The wording of a fault, for a file of a name. -/
def FileFault.message (fault : FileFault) (name : Text) : Text :=
  let reason := match fault with
    | missing => "[Errno 2] No such file or directory: "
    | folder => "[Errno 21] Is a directory: "
    | blocked => "[Errno 20] Not a directory: "
    | occupied => "[Errno 17] File exists: "
  reason.toList ++ Text.quoted name

namespace World

/-- A world without variables and files. -/
def empty : World := ⟨[], [], []⟩

/-- The value of an environment variable. -/
def valueOf (world : World) (name : Text) : Option Text :=
  (world.environment.find? (·.1 == name)).map (·.2)

/-- The world with a variable set, or removed. -/
def setVariable (world : World) (name : Text) (value : Option Text) : World :=
  { world with
    environment := (value.map (name, ·)).toList ++ world.environment.filter (·.1 != name) }

/-- The text of the file at a location. -/
def file? (world : World) (location : Location) : Option Text :=
  (world.files.find? (·.1 == location)).map (·.2)

/-- There is a folder at a location. -/
def isFolder (world : World) (location : Location) : Bool :=
  location.steps.all (· = ['.', '.']) || world.folders.contains location ||
    world.files.any fun (file, _) => file != location && file.isWithin location

/-- **Follows steps from a location**, each of which must start from a folder. -/
def follow (world : World) : Location → List Text → Except FileFault Location
  | here, [] => .ok here
  | here, name :: rest =>
    if world.isFolder here then world.follow (here.step name) rest
    else .error (if (world.file? here).isSome then .blocked else .missing)

/-- **The text of the file that a name leads to**, or why there is none. -/
def read (world : World) (name : Text) : Except FileFault Text := do
  let location ← world.follow (.start name) (Location.stepsOf name)
  match world.file? location with
  | some text => return text
  | none => throw (if world.isFolder location then .folder else .missing)

/-- What keeps a file of a name from being written, with the folders on its way made, if anything does. -/
def obstacle? (world : World) (name : Text) : Option FileFault :=
  let isFile (place : Location) := (world.file? place).isSome
  let way := Location.way name
  if way.getLast?.any isFile then some .occupied
  else if way.any isFile then some .blocked
  else if world.isFolder (.ofName name) then some .folder
  else none

/-- The world with folders made. -/
def makeFolders (world : World) (places : List Location) : World :=
  { world with folders := places ++ world.folders }

/-- **The world with a file written**, and the folders on its way made. -/
def write (world : World) (location : Location) (text : Text) : World :=
  { world with
    files := (location, text) :: world.files.filter (·.1 != location)
    folders := location.parents ++ world.folders }

/-- The world without a file. -/
def remove (world : World) (location : Location) : World :=
  { world with files := world.files.filter (·.1 != location) }

end World

end QuerySignature
