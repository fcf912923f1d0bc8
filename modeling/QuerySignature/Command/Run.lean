import QuerySignature.Binding.Substitute
import QuerySignature.Command.Arguments
import QuerySignature.Report.Markup
import QuerySignature.Report.Table
import QuerySignature.Settings.Store
import QuerySignature.Signature.Parameters

/-!
# Command/Run — the commands

`Command.run` is a whole run of the program over a world: the settings are made first, then the command reads
its query, from a file or from the input, and prints a table, JSON or a text.  A report of a fault is printed
and ends the run with status one; a fault that no report covers leaves the run as a `Crash`; a command line
that cannot be read ends it with status two.
-/

namespace QuerySignature

namespace Command

/-- **A fault that no report covers.** -/
inductive Crash where
  | unreadable (term : Unreadable)
  | noDocuments
  /-- An integer in a binding is too long to be written. -/
  | longInteger
  | settings (fault : Settings.Fault)
  | logLevel
  /-- A closing tag in a table ends nothing. -/
  | markup

/-- How a run ends early. -/
inductive Stop where
  /-- A report, printed behind the word for an error. -/
  | report (text : Text)
  /-- A fault that no report covers, behind what is printed before it. -/
  | crash (crash : Crash) (printed : Text)
  /-- The command line cannot be read. -/
  | usage
  /-- Help was asked for. -/
  | help

/-- **The end of a run**: its status, what it printed, and the fault that left it. -/
structure Outcome where
  status : Nat
  output : Text
  crash : Option Crash

/-- A part of a run. -/
abbrev Run (α : Type) := Except Stop α

/-! ## Inputs -/

/-- The text behind what has been passed, which is in reverse, with each line end as a line feed. -/
def lineFeedsFrom : Text → (passed : Text) → Text
  | [], passed => passed.reverse
  | '\r' :: '\n' :: rest, passed => lineFeedsFrom rest ('\n' :: passed)
  | '\r' :: rest, passed => lineFeedsFrom rest ('\n' :: passed)
  | c :: rest, passed => lineFeedsFrom rest (c :: passed)

/-- **The text with each line end as a line feed.** -/
def withLineFeeds (text : Text) : Text :=
  lineFeedsFrom text []

/-- What a run has around it. -/
structure Surroundings where
  world : World
  input : Text
  settings : Settings

/-- The text of a named file. -/
def Surroundings.file (around : Surroundings) (name : Text) : Run Text :=
  let name := Location.tidied name
  (around.world.read name).mapError fun fault => .report (fault.message name)

/-- **The query text** of a source: a file, or the input behind a hyphen. -/
def Surroundings.queryText (around : Surroundings) (source : Text) : Run Text := do
  let text ← if source = ['-'] then pure around.input else around.file source
  return withLineFeeds text

/-- How a failure ends the run. -/
def stopOf : Failure → Stop
  | .rejected error => .report error.message
  | .unreadable term => .crash (.unreadable term) []

/-- **The query** of a source. -/
def Surroundings.query (around : Surroundings) (source : Text) : Run Query := do
  (parse around.settings.limits (← around.queryText source)).mapError stopOf

/-! ## Outputs -/

/-- Lines, each with its line feed. -/
def printedLines (lines : List Text) : Text :=
  lines.flatMap (· ++ ['\n'])

/-- Names of variables with their marks. -/
def markedNames (names : List Text) : Text :=
  Text.joined [' '] (names.map ('?' :: ·))

/-- The outputs of a query, numbered. -/
def outputsTable (names : List Text) : Table where
  title := "Query Outputs".toList
  columns := [⟨"#".toList, true⟩, ⟨"Output".toList, false⟩]
  rows := names.mapIdx fun index name => [Text.ofNat (index + 1), name]

/-- The variable groups of a query, numbered. -/
def groupsTable (groups : List (List Text)) : Table where
  title := "VALUES Variable Groups".toList
  columns := [⟨"Group".toList, true⟩, ⟨"Variables".toList, false⟩]
  rows := groups.mapIdx fun index group => [Text.ofNat (index + 1), markedNames group]

/-- The slots of a query, by kind. -/
def parametersTable (parameters : Parameters) : Table where
  title := "Query Parameters".toList
  columns := [⟨"Kind".toList, false⟩, ⟨"Parameter".toList, false⟩]
  rows := parameters.groups.map (fun group => ["VALUES".toList, markedNames group]) ++
    parameters.limits.map (fun slot => ["LIMIT".toList, slot]) ++
    parameters.offsets.map (fun slot => ["OFFSET".toList, slot])

/-- The namespaces of a query, unless a closing tag in an IRI ends nothing. -/
def namespacesTable? (table : List (Text × Text)) : Option Table := do
  let rows ← table.mapM fun (label, iri) => return [label ++ [':'], ← Markup.plain? iri]
  return ⟨"Prefixes".toList, [⟨"Prefix".toList, false⟩, ⟨"IRI".toList, false⟩], rows⟩

/-- A value as JSON, or a table in its place. -/
def jsonOrTable (json : Bool) (value : Json) (table : Table) : Text :=
  if json then value.printed .page ++ ['\n'] else printedLines table.lines

/-- The summary of a query, and its namespaces if it has any. -/
def summaryText (query : Query) : Run Text := do
  let namespaces := query.prologue.table
  let summary := ['✓', ' '] ++ query.summary ++ ['\n']
  if namespaces.isEmpty then return summary
  match namespacesTable? namespaces with
  | some table => return summary ++ printedLines table.lines
  | none => throw (.crash .markup summary)

/-! ## Commands -/

/-- The commands. -/
inductive Name where
  | version
  | parse
  | outputs
  | variableGroups
  | parameters
  | bind
  deriving DecidableEq

/-- The command of a name. -/
def name? (text : Text) : Option Name :=
  [("version", Name.version), ("parse", .parse), ("outputs", .outputs), ("variables", .variableGroups),
    ("parameters", .parameters), ("bind", .bind)].findSome? fun (name, command) =>
      if text = name.toList then some command else none

/-- The option that asks for help. -/
def helpOption : OptionSpec := ⟨"help".toList, none, false⟩

/-- The options in front of a command. -/
def generalOptions : List OptionSpec :=
  [⟨"config".toList, none, true⟩, ⟨"loglevel".toList, some 'l', true⟩, helpOption]

/-- The options of a command. -/
def Name.options : Name → List OptionSpec
  | outputs | variableGroups | parameters => [⟨"json".toList, none, false⟩, helpOption]
  | bind => [⟨"bindings".toList, some 'b', true⟩, helpOption]
  | version | parse => [helpOption]

/-- A command line taken apart. -/
def arguments (specs : List OptionSpec) (mixed : Bool) (args : List Text) : Run Arguments :=
  match Arguments.parse? specs mixed args with
  | some arguments => if arguments.has "help" then throw .help else return arguments
  | none => throw .usage

/-- The only argument. -/
def onlyArgument (arguments : Arguments) : Run Text :=
  match arguments.others with
  | [source] => return source
  | _ => throw .usage

/-- Fills the slots of a query from a bindings file. -/
def runBind (around : Surroundings) (source bindingsFile : Text) : Run Text := do
  let text ← around.queryText source
  let document ← around.file bindingsFile
  let bindings ← (Json.parse .strict document).mapError fun _ =>
    .report "Invalid bindings JSON: not a JSON document".toList
  match applyBindings around.settings.limits text bindings with
  | .ok (text, _) => return text ++ ['\n']
  | .error (.query failure) => throw (stopOf failure)
  | .error .noDocuments => throw (.crash .noDocuments [])
  | .error (.binding (.refused error)) => throw (.report error.message)
  | .error (.binding .longInteger) => throw (.crash .longInteger [])

/-- **Runs a command** with its arguments. -/
def Name.run (name : Name) (around : Surroundings) (args : List Text) : Run Text := do
  let arguments ← arguments name.options true args
  if name = .version then
    if arguments.others.isEmpty then return "sparqlmeta version 0.1.0\n".toList else throw .usage
  let source ← onlyArgument arguments
  let json := arguments.has "json"
  match name with
  | .version => return []
  | .parse => summaryText (← around.query source)
  | .outputs =>
    let names := (← around.query source).outputs
    return jsonOrTable json (.array (names.map .string)) (outputsTable names)
  | .variableGroups =>
    let groups := (← around.query source).variableGroups
    return jsonOrTable json (.array (groups.map fun group => .array (group.map .string)))
      (groupsTable groups)
  | .parameters =>
    let parameters := (← around.query source).parameters
    return jsonOrTable json parameters.toJson (parametersTable parameters)
  | .bind =>
    match arguments.value? "bindings" with
    | some file => runBind around source file
    | none => throw .usage

/-! ## Whole runs -/

/-- How a fault of the settings ends the run. -/
def settingsStop (fault : Settings.Fault) : Stop :=
  match fault with
  | .document | .part | .unfit _ | .readOnly _ => .crash (.settings fault) []
  | fault =>
    .report ("Invalid configuration: ".toList ++ fault.message?.getD "not a JSON document".toList)

/-- **The settings of a run**: those of the world, and of a named file if there is one. -/
def settings (world : World) (file : Option Text) : Run Settings :=
  let making := match file.filter (!·.isEmpty) with
    | some file => Storing.init (some file)
    | none => Storing.shared
  match making (.ofWorld world) with
  | .ok _ store => return store.sharedSettings.getD .standard
  | .error fault _ => throw (settingsStop fault)

/-- The log level must be a text, unless the command line gives one. -/
def checkLogLevel (option : Option Text) (settings : Settings) : Run Unit :=
  if (option.filter (!·.isEmpty)).isSome || settings.logLevel.text?.isSome then return
  else throw (.crash .logLevel [])

/-- The run of a command line. -/
def runArguments (world : World) (input : Text) (args : List Text) : Run Text := do
  let general ← arguments generalOptions false args
  match general.others with
  | [] => throw .usage
  | word :: rest =>
    let some name := name? word | throw .usage
    let settings ← settings world (general.value? "config")
    checkLogLevel (general.value? "loglevel") settings
    name.run ⟨world, input, settings⟩ rest

/-- A report as it is printed: escaped, so that no tag is read in it, but with emoji in the place of short
codes. -/
def shownReport (text : Text) : Text :=
  (Markup.plain? (Markup.escaped text)).getD text

/-- **A whole run of the program.** -/
def run (world : World) (input : Text) (args : List Text) : Outcome :=
  match runArguments world input args with
  | .ok output => ⟨0, output, none⟩
  | .error (.report text) => ⟨1, "Error: ".toList ++ shownReport text ++ ['\n'], none⟩
  | .error (.crash crash printed) => ⟨1, printed, some crash⟩
  | .error .usage => ⟨2, [], none⟩
  | .error .help => ⟨0, [], none⟩

end Command

end QuerySignature
