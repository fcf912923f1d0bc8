import QuerySignature.Json.Parser
import QuerySignature.Json.Printer
import QuerySignature.Limits
import QuerySignature.Settings.World
import QuerySignature.Text.Numeral

/-!
# Settings/Basic — limits and log level, and where they come from

Settings start from their standard values; environment variables override them, and then the first settings
file that can be read.  `Settings.update` applies one document: first its limits, then the members of its
operational part in their order, so a document at fault leaves applied what stands before the fault.
`Settings.load` runs all layers over a world.
-/

namespace QuerySignature

/-- **The settings of a program.**  The log level is whatever a document gave. -/
structure Settings where
  limits : Limits
  logLevel : Json

namespace Settings

/-- **The keys of the operational part that have a meaning.**  One is a setting; the others stand for the
record of settings itself. -/
inductive OperationalKey where
  /-- The log level. -/
  | logLevel
  /-- All members of the record at once. -/
  | members
  /-- The type of the record; no value of a document is a type. -/
  | type
  /-- The references to the record, which can only be read. -/
  | references
  deriving DecidableEq, Repr

namespace OperationalKey

/-- The key as a document writes it. -/
def text : OperationalKey → Text
  | logLevel => "log_level".toList
  | members => "__dict__".toList
  | type => "__class__".toList
  | references => "__weakref__".toList

/-- Every key. -/
def all : List OperationalKey := [logLevel, members, type, references]

/-- The key that a document writes so, if it has a meaning. -/
def ofText? (text : Text) : Option OperationalKey :=
  all.find? (·.text = text)

end OperationalKey

/-- **Why settings cannot be had.** -/
inductive Fault where
  /-- Limits do not fit. -/
  | limits (fault : Limits.Fault)
  /-- An environment variable is no integer. -/
  | notInteger (name raw : Text)
  /-- A document has no members. -/
  | document
  /-- A part of a document that should have members has none. -/
  | part
  /-- A member of the operational part has a value that its key does not take. -/
  | unfit (key : OperationalKey)
  /-- A member of the operational part cannot be written. -/
  | readOnly (key : OperationalKey)
  /-- A file has no text. -/
  | file (name : Text) (fault : FileFault)
  /-- The text of a file is not JSON. -/
  | json (fault : Json.ParseFault)

/-- The wording of a fault, where it has one. -/
def Fault.message? : Fault → Option Text
  | .limits fault => fault.message?
  | notInteger name raw => some (name ++ " must be an integer, got ".toList ++ Text.quoted raw)
  | file name fault => some (fault.message name)
  | _ => none

/-- The settings that hold where none are given. -/
def standard : Settings := ⟨.standard, .string "WARNING".toList⟩

/-- The settings as a document. -/
def toJson (settings : Settings) : Json :=
  .object [("limits".toList, settings.limits.toJson),
    ("operational".toList, .object [(OperationalKey.logLevel.text, settings.logLevel)])]

/-! ## Documents -/

/-- The part of a document under a key, if it has one.  An array or a string has no parts, and is at fault
if it holds the key. -/
def part? (key : Text) : Json → Except Fault (Option Json)
  | .object fields => .ok (Json.lookup key fields)
  | .array items => if items.any (·.text? == some key) then .error .document else .ok none
  | .string text => if Text.hasPiece key text then .error .document else .ok none
  | _ => .error .document

/-- The members of a part. -/
def members (part : Json) : Except Fault (List (Text × Json)) :=
  match part.fields? with
  | some members => .ok members
  | none => .error .part

/-- **Changing settings**: a fault leaves the changes made before it. -/
abbrev Updating := EStateM Fault Settings Unit

/-- Raises the fault of a value. -/
def raised (value : Except Fault α) : EStateM Fault Settings α :=
  match value with
  | .ok a => pure a
  | .error fault => throw fault

/-- Overrides the limits that members name. -/
def updateLimits (members : List (Text × Json)) : Updating := do
  let settings ← get
  let limits ← raised ((settings.limits.overridden members).mapError .limits)
  set { settings with limits }

/-- The log level of a record: the standard one where its members name none. -/
def levelOf (members : List (Text × Json)) : Json :=
  (Json.lookup OperationalKey.logLevel.text members).getD standard.logLevel

/-- **Applies a member of the operational part.**  A key without a meaning changes nothing. -/
def updateOperationalMember (member : Text × Json) : Updating := do
  match OperationalKey.ofText? member.1 with
  | none => return
  | some .logLevel => modify ({ · with logLevel := member.2 })
  | some .members =>
    match member.2.fields? with
    | some members => modify ({ · with logLevel := levelOf members })
    | none => throw (.unfit .members)
  | some .type => throw (.unfit .type)
  | some .references => throw (.readOnly .references)

/-- Applies the members of the operational part in their order. -/
def updateOperational (members : List (Text × Json)) : Updating :=
  members.forM updateOperationalMember

/-- **Applies a document.** -/
def update (document : Json) : Updating := do
  match ← raised (part? "limits".toList document) with
  | some part => updateLimits (← raised (members part))
  | none => pure ()
  match ← raised (part? "operational".toList document) with
  | some part => updateOperational (← raised (members part))
  | none => pure ()

/-! ## Layers -/

/-- The environment variable of a ceiling. -/
def variableOf : Limits.Field → Text
  | .maxDepth => "SPARQLMETA_MAX_DEPTH".toList
  | .maxInputLength => "SPARQLMETA_MAX_INPUT_LENGTH".toList
  | .maxTokens => "SPARQLMETA_MAX_TOKENS".toList

/-- The ceiling that the environment gives, if it gives one. -/
def fromVariable (world : World) (field : Limits.Field) : Except Fault (Option (Text × Json)) :=
  match world.valueOf (variableOf field) with
  | none => .ok none
  | some raw =>
    match Text.integer? raw with
    | some n => .ok (some (field.key, .int n))
    | none => .error (.notInteger (variableOf field) raw)

/-- **Applies the environment**: all numerals are read before any limit is checked. -/
def updateFromEnvironment (world : World) : Updating := do
  let members ← raised (Limits.Field.all.mapM (fromVariable world))
  updateLimits (members.filterMap id)
  match world.valueOf "SPARQLMETA_LOG_LEVEL".toList with
  | some level => modify ({ · with logLevel := .string level })
  | none => return

/-- The locations where a settings file may be, in order. -/
def locations : List Location :=
  [⟨.home, [".sparqlmeta".toList, "config.json".toList]⟩, ⟨.working, ["sparqlmeta.json".toList]⟩]

/-- The text of the file that the environment names. -/
def namedFile? (world : World) : Option Text := do
  let name ← (world.valueOf "SPARQLMETA_CONFIG_FILE".toList).filter (!·.isEmpty)
  (world.read (Location.tidied name)).toOption

/-- The texts of the settings files that there are, in order. -/
def candidates (world : World) : List Text :=
  locations.filterMap world.file? ++ (namedFile? world).toList

/-- The document of the first text that is JSON, and how many texts before it are not. -/
def firstDocument : List Text → Option Json × Nat
  | [] => (none, 0)
  | text :: rest =>
    match Json.parse .lenient text with
    | .ok document => (some document, 0)
    | .error _ => ((firstDocument rest).1, (firstDocument rest).2 + 1)

/-- **Applies the first settings file that can be read**, and counts those before it that cannot. -/
def updateFromFiles (world : World) : EStateM Fault Settings Nat := do
  let (document, failures) := firstDocument (candidates world)
  match document with
  | some document => update document
  | none => pure ()
  return failures

/-- Applies every layer. -/
def updateFromWorld (world : World) : EStateM Fault Settings Nat := do
  updateFromEnvironment world
  updateFromFiles world

/-- **The settings over a base**, with the number of settings files that could not be read. -/
def loadOver (base : Settings) (world : World) : Except Fault (Settings × Nat) :=
  match updateFromWorld world base with
  | .ok failures settings => .ok (settings, failures)
  | .error fault _ => .error fault

/-- **The settings of a world.** -/
def load (world : World) : Except Fault (Settings × Nat) :=
  loadOver standard world

/-- Applies the document of a named file. -/
def updateFromFile (world : World) (name : Text) : Updating := do
  let text ← raised ((world.read name).mapError (.file name))
  update (← raised ((Json.parse .lenient text).mapError .json))

/-- The text of a settings file. -/
def saved (settings : Settings) : Text :=
  settings.toJson.printed .asciiPage

end Settings

end QuerySignature
