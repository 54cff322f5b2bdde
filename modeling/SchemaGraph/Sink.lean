/-!
# Where exported files go

A sink takes a named file, or refuses it. The sink of this module keeps files in memory.
-/

namespace SchemaGraph

inductive SinkError where
  | io (path reason : String)
  | rejected (text : String)
  deriving DecidableEq, Repr

def SinkError.message : SinkError → String
  | io path reason => "Failed to write " ++ path ++ ": " ++ reason
  | rejected text => "Output rejected: " ++ text

/-- Files kept in memory, the oldest first. A name may occur several times. -/
structure MemorySink where
  files : List (String × String)
  deriving DecidableEq, Repr

namespace MemorySink

def empty : MemorySink := ⟨[]⟩

def save (s : MemorySink) (name text : String) : MemorySink := ⟨s.files ++ [(name, text)]⟩

/-- The newest file of the given name. -/
def newest? (s : MemorySink) (name : String) : Option String :=
  (s.files.reverse.find? fun f => f.1 == name).map (·.2)

theorem newest?_save (s : MemorySink) (name text : String) :
    (s.save name text).newest? name = some text := by
  simp [save, newest?]

end MemorySink

end SchemaGraph
