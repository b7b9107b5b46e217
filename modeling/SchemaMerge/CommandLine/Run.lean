import SchemaMerge.CommandLine.Request
import SchemaMerge.Consolidate

/-!
What a command does, in terms of a system that keeps files, takes text and knows the time. A failure
tells what was tried and, where the work itself failed, why; what was done before stays done.
-/

namespace SchemaMerge.CommandLine

/-- What a run needs of its surroundings. -/
structure System (m : Type → Type) where
  /-- The text of a file. There is no outer value if the file cannot be opened, and no inner one if
  it can be opened but holds no text. -/
  read : String → m (Option (Option String))
  /-- Puts a text into a file. False if the file cannot be created. -/
  write : String → String → m Bool
  /-- Writes to the standard output. -/
  print : String → m Unit
  warn : String → m Unit
  time : m String

/-- Why a run stops. -/
structure Failure where
  context : String
  cause : Option String := none
  deriving DecidableEq, Repr

/-- What is told of the cause of a failure: its message, except for patterns. -/
def causeOf? : Error → Option String
  | .invalidRule _ _ => none
  | error => some error.message

/-- A value as it is written, with a line feed at its end. -/
def render (format : Format) (value : Json) : String :=
  match format with
  | .pretty => value.pretty ++ "\n"
  | .compact => value.compact ++ "\n"

/-- A report with the time and the path of the input in front. -/
def reportFile (time input : String) (report : Report) : Json :=
  .record ([("generatedAt", .string time), ("input", .string input)] ++ report.toFields)

/-- What is said of a name that was taken. -/
def warning (conflict : NameConflict) : String :=
  let members := Text.joined ", " conflict.members
  s!"Warning: canonical name {conflict.requested} already taken, used {conflict.assigned} for " ++
    members

/-- The options of a request on top of those of its configuration. -/
def Request.options (request : Request) (configured : Options) : Options :=
  { configured with
    topN := (request.top.map UInt64.ofNat).getD configured.topN
    tier := request.tier.getD configured.tier
    conflictPolicy := request.conflictPolicy.getD configured.conflictPolicy
    extractInline := request.extractInline || configured.extractInline }

section

variable {m : Type → Type} [Monad m]

/-- The result of a step of the work. -/
def work {α : Type} (context : String) (result : Except Error α) : ExceptT Failure m α :=
  ExceptT.mk (pure (result.mapError fun error => { context, cause := causeOf? error }))

/-- Reads a file by `parse`. `opened` and `parsed` name it in failures. -/
def readFile {α : Type} (system : System m) (opened parsed path : String)
    (parse : String → Option α) : ExceptT Failure m α := do
  match ← system.read path with
  | none => throw { context := s!"Failed to open {opened}: {path}" }
  | some text =>
      match text.bind parse with
      | some x => return x
      | none => throw { context := s!"Failed to parse {parsed} from: {path}" }

def readDocument (system : System m) (path : String) : ExceptT Failure m Document := do
  let value ← readFile system "input file" "document" path Json.read?
  work ("Not a consolidatable document: " ++ path) (Document.ofJson? value)

/-- The options of a configuration file, or the defaults if none is named. -/
def readOptions (system : System m) : Option String → ExceptT Failure m Options
  | none => return {}
  | some path => readFile system "config file" "config" path Options.read?

def readRenames (system : System m) (path : String) : ExceptT Failure m (NameMap String) :=
  readFile system "rename map" "rename map" path fun text => (Json.read? text).bind Json.stringMap?

/-- Writes a value to a file, or to the standard output if no file is named. -/
def emit (system : System m) (format : Format) (path : Option String) (value : Json) :
    ExceptT Failure m Unit := do
  match path with
  | none => system.print (render format value)
  | some path =>
      unless ← system.write path (render format value) do
        throw { context := "Failed to create output file: " ++ path }

def runAnalyze (system : System m) (request : Request) : ExceptT Failure m Unit := do
  let document ← readDocument system request.input
  let options ← readOptions system request.config
  let report ← work "Analysis failed" (document.analyze? (request.options options))
  let time ← system.time
  emit system request.format request.output (reportFile time request.input report)

def runConsolidate (system : System m) (request : Request) : ExceptT Failure m Unit := do
  let document ← readDocument system request.input
  let options ← readOptions system request.config
  let result ← work "Consolidation failed" (document.consolidate? (request.options options))
  for conflict in result.report.conflicts do
    system.warn (warning conflict)
  emit system request.format request.output result.document.toJson
  if request.report.isSome then
    let time ← system.time
    emit system request.format request.report (reportFile time request.input result.report)

def runRename (system : System m) (request : Request) : ExceptT Failure m Unit := do
  let document ← readDocument system request.input
  let renames ← readRenames system (request.map.getD "")
  let (renamed, _) ← work "Rename failed" (document.applyRenames? renames)
  emit system request.format request.output renamed.toJson

def runRequest (system : System m) (request : Request) : ExceptT Failure m Unit :=
  match request.command with
  | .analyze => runAnalyze system request
  | .consolidate => runConsolidate system request
  | .rename => runRename system request

def versionText : String := "schema-consolidate 0.1.0\n"

def usageText : String := "Usage: schema-consolidate <analyze|consolidate|rename> <input> [options]"

/-- Runs the program. Gives the exit code, and the failure if there was one. -/
def run (system : System m) (arguments : List String) : m (Nat × Option Failure) := do
  match meaning false arguments with
  | .misuse =>
      system.warn usageText
      return (2, none)
  | .version =>
      system.print versionText
      return (0, none)
  | .request request =>
      match ← (runRequest system request).run with
      | .ok _ => return (0, none)
      | .error failure => return (1, some failure)

end

end SchemaMerge.CommandLine
