import SchemaGraph.CommandLine.Run
import Std.Time.DateTime.Timestamp

/-!
# The command line program

Gathers what a run needs from the system: the arguments, random bits for identities, the time and
the files. Then it prints the outcome.
-/

namespace SchemaGraph.CommandLine

/-- What went wrong with a file of the system. -/
def FileError.ofSystem : IO.Error → FileError
  | .noFileOrDirectory .. => .notFound
  | .alreadyExists .. => .alreadyThere
  | .inappropriateType _ 21 _ => .isDirectory
  | .inappropriateType .. => .notDirectory
  | .permissionDenied _ code details => .other (details ++ " (os error " ++ toString code ++ ")")
  | e => .other (toString e)

/-- An action on the files of the system with its error as a value. -/
def attempt {α : Type} (action : IO α) : IO (Except FileError α) := do
  try
    pure (.ok (← action))
  catch e =>
    pure (.error (.ofSystem e))

def readText (path : String) : IO (Except FileError String) := do
  match ← attempt (IO.FS.readBinFile path) with
  | .error e => pure (.error e)
  | .ok bytes =>
    match String.fromUTF8? bytes with
    | some text => pure (.ok text)
    | none => pure (.error .notText)

instance : FileSystem IO where
  readText := readText
  isDirectory path := do
    match ← attempt (IO.FS.realPath (path ++ "/.")) with
    | .ok _ => pure true
    | .error _ => pure false
  makeDirectory path := attempt (IO.FS.createDir path)
  writeText path text := attempt (IO.FS.writeFile path text)

/-- The number whose digits to the base 256 are the bytes. -/
def numberOfBytes (bytes : ByteArray) : Nat :=
  bytes.toList.foldl (fun n b => n * 256 + b.toNat) 0

def currentInstant : IO Sql.Instant := do
  let now ← Std.Time.Timestamp.now
  pure ⟨now.val.second.val, now.val.nano.val.toNat⟩

end SchemaGraph.CommandLine

def main (args : List String) : IO UInt32 := do
  let ids : SchemaGraph.IdSupply :=
    ⟨SchemaGraph.CommandLine.numberOfBytes (← IO.getRandomBytes 16), 0⟩
  let now ← SchemaGraph.CommandLine.currentInstant
  let outcome : SchemaGraph.CommandLine.Outcome ← SchemaGraph.CommandLine.run ids now args
  IO.print outcome.output
  IO.eprint (outcome.messages (some (now.textToSecond ++ "Z")))
  pure outcome.code.toUInt32
