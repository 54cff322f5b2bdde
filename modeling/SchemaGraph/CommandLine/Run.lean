import SchemaGraph.CommandLine.Arguments
import SchemaGraph.CommandLine.Files
import SchemaGraph.Json.Writer
import SchemaGraph.Sql.Detect
import SchemaGraph.Wire.Canvas

/-!
# A run of the program

The script is read from a file and imported into a workspace. The schema is then printed as JSON, or
written as a script into a directory. All texts that a run prints are gathered in its outcome.
-/

namespace SchemaGraph.CommandLine

/-- What a run prints and how it ends. -/
structure Outcome where
  code : Nat
  output : String
  log : List LogLine
  failure : Option String

def helpText : String :=
  "SchemaForge - SQL schema import, inspection and export\n\n"
    ++ "Usage: schemaforge [OPTIONS] <COMMAND>\n\n"
    ++ "Commands:\n"
    ++ "  inspect  Print tables, relationships and skipped clauses as JSON\n"
    ++ "  convert  Parse a SQL file and write it back out as schema.sql\n"
    ++ "  help     Print this message or the help of the given subcommand(s)\n\n"
    ++ "Options:\n"
    ++ "  -d, --dialect <DIALECT>      Input dialect; guessed when omitted\n"
    ++ "  -l, --log-level <LOG_LEVEL>  Set log level [default: warn]\n"
    ++ "  -h, --help                   Print help\n"
    ++ "  -V, --version                Print version\n"

def versionText : String := programName ++ " 0.1.0\n"

def usageText : String := "Usage: schemaforge [OPTIONS] <COMMAND>"

/-- The outcome where the arguments lead to no run. -/
def Stop.outcome : Stop → Outcome
  | usage => ⟨2, "", [], some usageText⟩
  | help => ⟨0, helpText, [], none⟩
  | version => ⟨0, versionText, [], none⟩

structure Loaded where
  workspace : Workspace Float
  summary : ImportSummary

/-- A part of a run: what it comes to, or the reason for which the run failed; and its log. -/
abbrev Part (α : Type) := Except String α × List LogLine

/-- The dialect that a user names (`parse_dialect`). -/
def dialectNamed (name : String) : Except String Sql.Dialect :=
  match Sql.Dialect.ofName? name with
  | some d => .ok d
  | none => .error ("Invalid dialect: " ++ name)

/-- The dialect that a user names, or else the one that a script seems to be written in. -/
def chooseDialect (name : Option String) (text : String) : Except String Sql.Dialect :=
  match name with
  | some name => dialectNamed name
  | none => .ok (Sql.Dialect.detect text)

/-- Imports the text of a file. -/
def importText (ids : IdSupply) (path text : String) (d : Sql.Dialect) : Part Loaded :=
  let reading := readingLine path d
  let w := Workspace.ofConfig { WorkspaceConfig.standard with dialect := d } ids
  match w.importScript text with
  | (.error e, _) => (.error ("Failed to import " ++ path ++ ": " ++ e.message), [reading])
  | (.ok summary, w) => (.ok ⟨w, summary⟩, reading :: importLines d summary)

def reportText (l : Loaded) : String :=
  (Wire.encodeReport l.workspace.model l.summary.diagnostics).pretty 0 ++ "\n"

def joinPath (directory name : String) : String :=
  if directory.endsWith "/" then directory ++ name else directory ++ "/" ++ name

variable {m : Type → Type} [Monad m] [FileSystem m]

/-- Reads a script from a file (`load`). -/
def load (ids : IdSupply) (path : String) (dialect : Option String) : m (Part Loaded) := do
  match ← FileSystem.readText path with
  | .error e => pure (.error ("Failed to read " ++ path ++ ": " ++ e.message), [])
  | .ok text =>
    match chooseDialect dialect text with
    | .error reason => pure (.error reason, [])
    | .ok d => pure (importText ids path text d)

/-- Takes a file into a directory, which is made if it is not there. -/
def saveTo (directory name text : String) : m (Except SinkError Unit) := do
  let path := joinPath directory name
  match ← makeDirectories directory with
  | .error e => pure (.error (.io path e.message))
  | .ok () =>
    match ← FileSystem.writeText path text with
    | .error e => pure (.error (.io path e.message))
    | .ok () => pure (.ok ())

/-- The log of an export, complete or not. -/
def exportLines (w : Workspace Float) (directory : String) :
    Except ExportError Nat → List LogLine
  | .error (.writing _) => []
  | .error (.sink _) => [generatedLine w.model.tables.length w.dialect]
  | .ok bytes =>
    [generatedLine w.model.tables.length w.dialect,
      wroteLine (joinPath directory exportFileName) bytes,
      exportedLine w.model.tables.length w.dialect]

def exportTo (w : Workspace Float) (now : Sql.Instant) (directory : String) : m (Part Unit) := do
  let result ← w.exportScript now (saveTo directory)
  let log := exportLines w directory result
  match result with
  | .error e => pure (.error e.message, log)
  | .ok _ => pure (.ok (), log)

def failed (reason : String) (log : List LogLine) : Outcome := ⟨1, "", log, some reason⟩

/-- Prints the schema of a script. -/
def inspect (ids : IdSupply) (dialect : Option String) (input : String) : m Outcome := do
  match ← load ids input dialect with
  | (.error reason, log) => pure (failed reason log)
  | (.ok loaded, log) => pure ⟨0, reportText loaded, log, none⟩

/-- The workspace with the dialect in which the script is to be written. -/
def retarget (w : Workspace Float) : Option String → Except String (Workspace Float)
  | none => .ok w
  | some name => (dialectNamed name).map w.setDialect

/-- Writes the schema of a script as a script. -/
def convert (ids : IdSupply) (now : Sql.Instant) (dialect : Option String)
    (input output : String) (target : Option String) : m Outcome := do
  match ← load ids input dialect with
  | (.error reason, log) => pure (failed reason log)
  | (.ok loaded, log) =>
    match retarget loaded.workspace target with
    | .error reason => pure (failed reason log)
    | .ok w =>
      match ← exportTo w now output with
      | (.error reason, more) => pure (failed reason (log ++ more))
      | (.ok (), more) => pure ⟨0, "", log ++ more, none⟩

/-- The log without the lines that are not to be shown. -/
def Outcome.shown (filter : LogFilter) (o : Outcome) : Outcome :=
  { o with log := o.log.filter fun line => filter.shows line.level }

/-- What is printed apart from the output: the log, and the reason of a failure. `time` stands in
the lines of the log. -/
def Outcome.messages (time : Option String) (o : Outcome) : String :=
  String.join (o.log.map (LogLine.print time)) ++ (o.failure.map (· ++ "\n")).getD ""

/-- A run with the given arguments, at the given time (`run`). -/
def run (ids : IdSupply) (now : Sql.Instant) (args : List String) : m Outcome :=
  match readArguments args with
  | .error stop => pure stop.outcome
  | .ok call => do
    let outcome ← match call.command with
      | .inspect input => inspect ids call.dialect input
      | .convert input output target => convert ids now call.dialect input output target
    pure (outcome.shown call.filter)

end SchemaGraph.CommandLine
