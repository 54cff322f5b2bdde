/-!
# Files

The program reads one file and may write another one, into a directory that it makes if need be.
What it needs of a file system is a class; the instance here keeps a tree of files in memory, with
the errors that an operating system gives.
-/

namespace SchemaGraph.CommandLine

inductive FileError where
  | notFound
  | alreadyThere
  | notDirectory
  | isDirectory
  | notText
  | other (text : String)
  deriving DecidableEq, Repr

/-- The reason in the words of the system, with its number. -/
def FileError.message : FileError → String
  | notFound => "No such file or directory (os error 2)"
  | alreadyThere => "File exists (os error 17)"
  | notDirectory => "Not a directory (os error 20)"
  | isDirectory => "Is a directory (os error 21)"
  | notText => "stream did not contain valid UTF-8"
  | other text => text

/-- What the program needs of a file system. -/
class FileSystem (m : Type → Type) where
  readText : String → m (Except FileError String)
  isDirectory : String → m Bool
  /-- Makes a directory in one that is there. -/
  makeDirectory : String → m (Except FileError Unit)
  writeText : String → String → m (Except FileError Unit)

/-- The parts of a path: names, and dots for the directory itself and the one above. -/
def parts (path : String) : List String := (path.splitOn "/").filter fun name => !name.isEmpty

/-! ## Making directories -/

/-- The path to the first `count` directories that a path names. A dot names none of its own. -/
def pathTo (path : String) (count : Nat) : String :=
  let named := (parts path).filter fun name => name != "."
  (if path.startsWith "/" then "/" else "") ++ "/".intercalate (named.take count)

/-- The paths of the directories above the one that a path names, from the nearest on. -/
def above (path : String) : List String :=
  let named := (parts path).filter fun name => name != "."
  ((List.range (named.length - 1)).map fun n => pathTo path (n + 1)).reverse

section MakeDirectories

variable {m : Type → Type} [Monad m] [FileSystem m]

/-- An attempt to make a directory, which counts as a success if the directory is there. -/
def settle (path : String) (tried : Except FileError Unit) : m (Except FileError Unit) := do
  match tried with
  | .ok () => pure (.ok ())
  | .error e =>
    if ← FileSystem.isDirectory path then pure (.ok ()) else pure (.error e)

/-- Makes the first of some directories, each of which is in the next one, and the others before it
where they are missing. -/
def makeAll : List String → m (Except FileError Unit)
  | [] => pure (.ok ())
  | here :: outer => do
    match ← FileSystem.makeDirectory here with
    | .error .notFound =>
      match ← makeAll outer with
      | .ok () => settle here (← FileSystem.makeDirectory here)
      | .error e => pure (.error e)
    | tried => settle here tried

/-- Makes a directory and those above it, unless they are there. A path that ends in a dot leads
into the directory before the dot, which is not made for it. -/
def makeDirectories (path : String) : m (Except FileError Unit) := makeAll (path :: above path)

end MakeDirectories

/-! ## Files in memory -/

/-- The names of the directories that lead to a file, and its own. -/
abbrev Path := List String

/-- A file tree. The root is a directory, and so is the directory in which the program runs. -/
structure Disk where
  files : List (Path × String)
  directories : List Path
  current : Path

namespace Disk

def empty : Disk := ⟨[], [["work"]], ["work"]⟩

def file? (d : Disk) (p : Path) : Option String := d.files.lookup p

def isDirectory (d : Disk) (p : Path) : Bool := p.isEmpty || d.directories.contains p

/-- The steps of a path: its parts, and a last one where a slash at the end asks for a directory. -/
def steps (path : String) : List String :=
  if path.endsWith "/" then parts path ++ ["."] else parts path

def origin (d : Disk) (path : String) : Path := if path.startsWith "/" then [] else d.current

/-- Where steps lead from `at`. All but the last one have to lead through directories. -/
def walk (d : Disk) (here : Path) : List String → Except FileError Path
  | [] => .ok here
  | step :: rest =>
    if !d.isDirectory here then
      .error (if (d.file? here).isSome then .notDirectory else .notFound)
    else if step = "." then d.walk here rest
    else if step = ".." then d.walk here.dropLast rest
    else d.walk (here ++ [step]) rest

def resolve (d : Disk) (path : String) : Except FileError Path :=
  d.walk (d.origin path) (steps path)

def readText (d : Disk) (path : String) : Except FileError String :=
  match d.resolve path with
  | .error e => .error e
  | .ok p =>
    match d.file? p with
    | some text => .ok text
    | none => .error (if d.isDirectory p then .isDirectory else .notFound)

def put (d : Disk) (p : Path) (text : String) : Disk :=
  { d with files := (p, text) :: d.files.filter fun f => f.1 != p }

def writeText (d : Disk) (path text : String) : Except FileError Unit × Disk :=
  match d.resolve path with
  | .error e => (.error e, d)
  | .ok p => if d.isDirectory p then (.error .isDirectory, d) else (.ok (), d.put p text)

def makeDirectory (d : Disk) (path : String) : Except FileError Unit × Disk :=
  match d.walk (d.origin path) (parts path) with
  | .error e => (.error e, d)
  | .ok p =>
    if d.isDirectory p || (d.file? p).isSome then (.error .alreadyThere, d)
    else (.ok (), { d with directories := p :: d.directories })

def leadsToDirectory (d : Disk) (path : String) : Bool :=
  match d.resolve path with
  | .error _ => false
  | .ok p => d.isDirectory p

end Disk

instance : FileSystem (StateM Disk) where
  readText path := fun d => pure (d.readText path, d)
  isDirectory path := fun d => pure (d.leadsToDirectory path, d)
  makeDirectory path := fun d => pure (d.makeDirectory path)
  writeText path text := fun d => pure (d.writeText path text)

/-- A file with the directories above it. -/
def Disk.add (d : Disk) (path text : String) : Disk :=
  let made : StateM Disk (Except FileError Unit) := makeAll (above path)
  ((made.run d).2.writeText path text).2

end SchemaGraph.CommandLine
