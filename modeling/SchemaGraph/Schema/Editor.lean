import SchemaGraph.Schema.Model

/-!
# Editing one table

An editing session works on a draft of a table. Nothing reaches the schema before the draft is
committed, and the commit is checked like every other change.
-/

namespace SchemaGraph

inductive EditorError where
  | illegalForeignKey (target : ForeignKey)
  | model (e : ModelError)
  deriving DecidableEq, Repr

def EditorError.message : EditorError → String
  | illegalForeignKey target =>
    "`" ++ target.text ++ "` is not a primary-key column of another table"
  | model e => e.message

/-- An editing session: the table as it was opened, and the draft. -/
structure TableEditor (K : Type) where
  opened : Table K
  draft : Table K
  deriving DecidableEq, Repr

namespace TableEditor

variable {K : Type} [Scalar K]

/-- Opens a table of the schema (`open`). -/
def start (m : Model K) (id : TableId) : Except EditorError (TableEditor K) :=
  match m.get id with
  | .error e => .error (.model e)
  | .ok t => .ok ⟨t, t⟩

def isDirty (e : TableEditor K) : Bool := !e.draft.same e.opened

/-- What a column may refer to (`foreign_key_targets`): the primary-key columns of all other
tables. -/
def foreignKeyTargets (e : TableEditor K) (m : Model K) : List ForeignKey :=
  (m.tables.filter fun t => t.id != e.draft.id).flatMap fun t =>
    t.primaryKeyColumns.map fun c => ⟨t.name, c.name⟩

/-- The draft at the place where the table lies now: it may have been moved during the session. -/
def placedDraft (e : TableEditor K) (m : Model K) : Table K :=
  e.draft.movedTo (((m.table? e.draft.id).map (·.position)).getD e.draft.position)

/-! ## Methods -/

def rename (e : TableEditor K) (name : String) : TableEditor K :=
  { e with draft := e.draft.renamed name }

/-- Adds a column of the default type under a fresh name (`add_column`). -/
def addColumn (e : TableEditor K) : TableEditor K :=
  let name := freshName "column" (e.draft.columns.map (·.name))
  { e with draft := e.draft.withColumnAdded (.plain name defaultColumnType) }

namespace InPlace

/-- Changes the draft to what `change` makes of it. -/
def changeDraft (change : Table K → Except ModelError (Table K)) :
    Method (TableEditor K) EditorError Unit := do
  let draft ← liftM ((change (← get).draft).mapError EditorError.model)
  modify fun e => { e with draft }

def updateColumn (index : Nat) (c : Column) : Method (TableEditor K) EditorError Unit :=
  changeDraft fun t => t.withColumnReplaced index c

def removeColumn (index : Nat) : Method (TableEditor K) EditorError Unit :=
  changeDraft fun t => t.withColumnRemoved index

def toggleFlag (index : Nat) (f : ColumnFlag) : Method (TableEditor K) EditorError Unit :=
  changeDraft fun t => t.withFlagToggled index f

/-- Sets the reference of a column to one of the targets in the schema (`set_foreign_key`). -/
def setForeignKey (m : Model K) (index : Nat) (target : ForeignKey) :
    Method (TableEditor K) EditorError Unit := do
  .require (((← get).foreignKeyTargets m).contains target) (.illegalForeignKey target)
  changeDraft fun t => t.withForeignKey index (some target)

def clearForeignKey (index : Nat) : Method (TableEditor K) EditorError Unit :=
  changeDraft fun t => t.withForeignKey index none

/-- Puts the draft into the schema, at the place where the table lies now (`commit`). -/
def commit (e : TableEditor K) : Method (Model K) EditorError Unit := do
  let draft := e.placedDraft (← get)
  ExceptT.adapt .model (Model.InPlace.replaceTable e.draft.id draft)

end InPlace

/-! ## What a commit makes of a schema -/

/-- The schema with the draft in it (`commit`). -/
def commit (e : TableEditor K) (m : Model K) : Except EditorError (Model K) :=
  (InPlace.commit e).result m

end TableEditor

end SchemaGraph
