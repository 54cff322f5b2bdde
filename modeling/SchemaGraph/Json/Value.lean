/-!
# JSON values

The tree of a JSON text. Whole numbers and others are kept apart, because only whole numbers serve
as an index, and a string may be garbled: escapes that name half of a character are well-formed
JSON, but they are not text. Such a string can be skipped, and cannot be used.
-/

namespace SchemaGraph.Json

/-- A JSON value. The members of an object keep their order; a garbled key is `none`. -/
inductive Value where
  | null
  | bool (b : Bool)
  | int (i : Int)
  | float (x : Float)
  | text (s : String)
  | garbled
  | array (items : List Value)
  | object (members : List (Option String × Value))

namespace Value

def record (members : List (String × Value)) : Value :=
  object (members.map fun m => (some m.1, m.2))

/-- A scalar as a number: one that is not finite becomes null. -/
def number (x : Float) : Value := if x.isFinite then float x else null

/-! ## Reading a value -/

def text? : Value → Option String
  | text s => some s
  | _ => none

def bool? : Value → Option Bool
  | bool b => some b
  | _ => none

/-- A finite number; a whole number is one too. -/
def float? : Value → Option Float
  | int i => some (Float.ofInt i)
  | float x => if x.isFinite then some x else none
  | _ => none

/-- The items of an array, each read by `f`. -/
def items? {α : Type} (f : Value → Option α) : Value → Option (List α)
  | array items => items.mapM f
  | _ => none

/-- Null, or what `f` reads. -/
def nullable? {α : Type} (f : Value → Option α) : Value → Option (Option α)
  | null => some none
  | v => (f v).map some

/-- The value of a choice without contents: its name, or an object with the name as its only key
and null as the value. -/
def choice? : Value → Option String
  | text s => some s
  | object [(some s, null)] => some s
  | _ => none

/-- The values that the members give to the named field. -/
def valuesOf (name : String) (members : List (Option String × Value)) : List Value :=
  members.filterMap fun m => if m.1 == some name then some m.2 else none

/-- The fields of a record, in the order of the names; `none` for a field that is not given. A
record is an object, in which other keys are ignored and no named key occurs twice, or an array of
the fields in order, which may end early. -/
def fields? (names : List String) : Value → Option (List (Option Value))
  | object members =>
    if members.all fun m => m.1.isSome then
      names.mapM fun name =>
        match valuesOf name members with
        | [] => some none
        | [v] => some (some v)
        | _ => none
    else none
  | array items =>
    if items.length ≤ names.length then
      some (items.map some ++ List.replicate (names.length - items.length) none)
    else none
  | _ => none

def required {α : Type} (f : Value → Option α) (field : Option Value) : Option α :=
  field.bind f

def optional {α : Type} (default : α) (f : Value → Option α) : Option Value → Option α
  | none => some default
  | some v => f v

end Value

end SchemaGraph.Json
