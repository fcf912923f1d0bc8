import QuerySignature.Command.Run

/-!
# Main — the program

The program reads its environment, the files that its command line names and its input, leaves the rest to
`Command.run`, and prints what that gives.
-/

open QuerySignature

/-- The environment variables that the program asks for. -/
def environmentNames : List String :=
  (Limits.Field.all.map fun field => String.ofList (Settings.variableOf field)) ++
    ["SPARQLMETA_LOG_LEVEL", "SPARQLMETA_CONFIG_FILE"]

/-- The environment, as far as the program asks for it. -/
def readEnvironment : IO (List (Text × Text)) :=
  environmentNames.filterMapM fun name => do
    return (← IO.getEnv name).map fun value => (name.toList, value.toList)

/-- The world with what is found under a name, and the folders on the way to it. -/
def readInto (world : World) (location : Location) (way : List Location) (name : String) : IO World := do
  try
    return (world.write location (← IO.FS.readFile name).toList).makeFolders way
  catch
    | .inappropriateType .. => return world.makeFolders (location :: way)
    | _ => return world

/-- The world around a command line. -/
def readWorld (args : List String) : IO World := do
  let environment ← readEnvironment
  let world : World := ⟨environment, [], []⟩
  let home := (← IO.getEnv "HOME").getD ""
  let mut world ← readInto world ⟨.home, [".sparqlmeta".toList, "config.json".toList]⟩ []
    (home ++ "/.sparqlmeta/config.json")
  let named := (world.valueOf "SPARQLMETA_CONFIG_FILE".toList).toList.map String.ofList
  for name in "sparqlmeta.json" :: named ++ args do
    world ← readInto world (.ofName name.toList) (Location.way name.toList) name
  return world

/-- Runs the program on a command line. -/
def main (args : List String) : IO UInt32 := do
  let world ← readWorld args
  let input ← if args.contains "-" then (← IO.getStdin).readToEnd else pure ""
  let outcome := Command.run world input.toList (args.map String.toList)
  IO.print (String.ofList outcome.output)
  if outcome.status = 2 then IO.eprintln "The command line cannot be read."
  if outcome.crash.isSome then IO.eprintln "The run was left by a fault."
  return UInt32.ofNat outcome.status
