/-!
# Fresh names

A name for something new is a stem with a number. The number is the least one, from a given start,
whose name is not taken. Among as many numbers and one more as there are names, one is free.
-/

namespace SchemaGraph

def numberedName (stem : String) (n : Nat) : String := stem ++ toString n

/-- The least number from `start` on whose name is not taken. -/
def freshNumber (stem : String) (taken : List String) (start : Nat) : Nat :=
  ((List.range' start (taken.length + 1)).find? fun n =>
    !taken.contains (numberedName stem n)).getD start

/-- A name that is not taken, numbered from one more than the number of names. -/
def freshName (stem : String) (taken : List String) : String :=
  numberedName stem (freshNumber stem taken (taken.length + 1))

end SchemaGraph
