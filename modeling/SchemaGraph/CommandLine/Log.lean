import SchemaGraph.Text.Escape
import SchemaGraph.Workspace

/-!
# The log

What a run of the program tells about its steps. Each line has a level and the part of the program
that it comes from; the user sets the level from which on lines are shown.
-/

namespace SchemaGraph.CommandLine

/-- The weight of a log line, the gravest first. -/
inductive LogLevel where
  | error | warn | info | debug | trace
  deriving DecidableEq, Repr

/-- What is shown of the log: lines down to a level, or nothing. -/
inductive LogFilter where
  | from (least : LogLevel)
  | off
  deriving DecidableEq, Repr

namespace LogLevel

def rank : LogLevel → Nat
  | error => 0
  | warn => 1
  | info => 2
  | debug => 3
  | trace => 4

/-- The level in a log line, in five columns. -/
def label : LogLevel → String
  | error => "ERROR"
  | warn => "WARN "
  | info => "INFO "
  | debug => "DEBUG"
  | trace => "TRACE"

end LogLevel

namespace LogFilter

/-- The filter that a user names. -/
def ofName? (name : String) : Option LogFilter :=
  match name with
  | "error" => some (.from .error)
  | "warn" => some (.from .warn)
  | "info" => some (.from .info)
  | "debug" => some (.from .debug)
  | "trace" => some (.from .trace)
  | "off" => some off
  | _ => none

def shows (filter : LogFilter) (level : LogLevel) : Bool :=
  match filter with
  | .from least => level.rank ≤ least.rank
  | off => false

end LogFilter

structure LogLine where
  level : LogLevel
  origin : String
  text : String
  deriving DecidableEq, Repr

/-- The line as it is printed: after the time, if one is given, and with further lines of its text
indented. -/
def LogLine.print (time : Option String) (line : LogLine) : String :=
  let indented := line.text.toList.flatMap fun c =>
    if c = '\n' then ['\n', ' ', ' ', ' ', ' '] else [c]
  "[" ++ (time.map (· ++ " ")).getD "" ++ line.level.label ++ " " ++ line.origin ++ "] "
    ++ String.ofList indented ++ "\n"

/-! ## What is told -/

/-- The name of the program, from which all lines come. -/
def programName : String := "schemaforge"

/-- The origin of a line in a part of the program. -/
def partOf (part : String) : String := programName ++ "::" ++ part

def droppedText : Sql.Dropped → String
  | .missingTable table columns target =>
    "dropping foreign key " ++ table ++ "." ++ Text.quotedList columns ++ " -> missing table "
      ++ target
  | .unknownColumn table column =>
    "dropping foreign key on unknown column " ++ table ++ "." ++ column
  | .missingColumn table column =>
    "dropping foreign key -> missing column " ++ table ++ "." ++ column

def readingLine (path : String) (d : Sql.Dialect) : LogLine :=
  ⟨.info, programName, "reading " ++ path ++ " as " ++ d.label⟩

/-- What is told of an imported script: dropped keys, reports, and counts. -/
def importLines (d : Sql.Dialect) (s : ImportSummary) : List LogLine :=
  let origin := partOf "sql::parser"
  s.script.dropped.map (fun x => ⟨.debug, origin, droppedText x⟩)
    ++ s.diagnostics.map (fun x => ⟨.warn, origin, "skipped: " ++ x.message⟩)
    ++ [⟨.debug, origin, "parsed " ++ toString s.script.definitions.length ++ " table(s) from "
          ++ toString s.script.tableStatements ++ " statement(s) as " ++ d.label⟩,
        ⟨.info, partOf "workspace", "imported " ++ toString s.tables ++ " table(s), "
          ++ toString s.relationships ++ " relationship(s), " ++ toString s.diagnostics.length
          ++ " skipped clause(s)"⟩]

def generatedLine (tables : Nat) (d : Sql.Dialect) : LogLine :=
  ⟨.debug, partOf "sql::generator",
    "generated " ++ toString tables ++ " table(s) as " ++ d.label⟩

def wroteLine (path : String) (bytes : Nat) : LogLine :=
  ⟨.info, partOf "sink", "wrote " ++ path ++ " (" ++ toString bytes ++ " bytes)"⟩

def exportedLine (tables : Nat) (d : Sql.Dialect) : LogLine :=
  ⟨.info, partOf "workspace", "exported " ++ toString tables ++ " table(s) as " ++ d.label⟩

end SchemaGraph.CommandLine
