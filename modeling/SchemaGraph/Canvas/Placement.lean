import SchemaGraph.Canvas.Metrics

/-!
# Placing tables

Tables that come from a script are placed in rows. A table whose references lead to no other table
is in the first row, and every other one is in the row below the lowest of the tables it refers to.
Tables from which the references lead into a cycle have no such row; they share one, below all
others. Within a row the tables are ordered by name, so the order of the script does not matter.
-/

namespace SchemaGraph.Canvas

/-! ## Rows -/

/-- Removes all but the first of equal names. -/
def distinctNames : List String → List String
  | [] => []
  | name :: rest => name :: (distinctNames rest).filter fun other => other != name

/-- The last definition of the given name: of several tables of one name the last one counts. -/
def lastNamed? (ts : List TableDefinition) (name : String) : Option TableDefinition :=
  ts.reverse.find? fun t => t.name == name

/-- The other tables that a table refers to. -/
def parentsOf (names : List String) (t : TableDefinition) : List String :=
  (t.columns.filterMap fun c => c.foreignKey.map (·.table)).filter fun target =>
    target != t.name && names.contains target

def parentNames (ts : List TableDefinition) (name : String) : List String :=
  match lastNamed? ts name with
  | none => []
  | some t => parentsOf (ts.map (·.name)) t

/-- The pending names whose parents have all been placed. -/
def readyNames (parents : String → List String) (placed pending : List String) : List String :=
  pending.filter fun name => (parents name).all placed.contains

def waitingNames (parents : String → List String) (placed pending : List String) : List String :=
  pending.filter fun name => !(parents name).all placed.contains

theorem length_ready_add_waiting (parents : String → List String) (placed pending : List String) :
    (readyNames parents placed pending).length + (waitingNames parents placed pending).length
      = pending.length := by
  unfold readyNames waitingNames
  induction pending with
  | nil => rfl
  | cons name rest ih =>
    by_cases h : (parents name).all placed.contains = true
    · simp only [h, List.filter_cons_of_pos, List.length_cons, Bool.not_true, Bool.false_eq_true,
        not_false_eq_true, List.filter_cons_of_neg]
      omega
    · simp only [h, Bool.false_eq_true, not_false_eq_true, List.filter_cons_of_neg, Bool.not_false,
        List.filter_cons_of_pos, List.length_cons]
      omega

/-- Rows from the top, as the loop of `arrangement` finds them: each holds the pending names whose
parents have all been placed. What is left when there are no such names leads into a cycle, and
makes up the last row. -/
def peelRows (parents : String → List String) (placed pending : List String) :
    List (List String) :=
  if (readyNames parents placed pending).isEmpty then
    if pending.isEmpty then [] else [pending]
  else
    readyNames parents placed pending
      :: peelRows parents (placed ++ readyNames parents placed pending)
          (waitingNames parents placed pending)
termination_by pending.length
decreasing_by
  rename_i h
  have hsum := length_ready_add_waiting parents placed pending
  have hpos : 0 < (readyNames parents placed pending).length :=
    List.length_pos_iff.2 fun hnil => h (List.isEmpty_iff.2 hnil)
  omega

/-- The names of the tables in rows, each row in the order of names (`arrangement`). -/
def rowsOf (ts : List TableDefinition) : List (List String) :=
  (peelRows (parentNames ts) [] (distinctNames (ts.map (·.name)))).map fun row =>
    row.mergeSort fun a b => decide (a ≤ b)

/-! ## Positions -/

variable {K : Type} [Scalar K]

def placementOrigin : Point K := ⟨Scalar.whole 50, Scalar.whole 50⟩

def columnGap : K := Scalar.whole 60

def rowGap : K := Scalar.whole 80

def placeRow (size : String → Size K) (y : K) : K → List String → List (String × Point K)
  | _, [] => []
  | x, name :: rest =>
    (name, ⟨x, y⟩) :: placeRow size y (x + ((size name).width + columnGap)) rest

def rowHeight (size : String → Size K) (row : List String) : K :=
  (row.map fun name => (size name).height).foldl Scalar.larger (Scalar.whole 0)

/-- The places of the names of all rows from `y` on. -/
def placeRows (size : String → Size K) : K → List (List String) → List (String × Point K)
  | _, [] => []
  | y, row :: rest =>
    placeRow size y placementOrigin.x row
      ++ placeRows size (y + (rowHeight size row + rowGap)) rest

def sizeNamed (size : TableDefinition → Size K) (ts : List TableDefinition) (name : String) :
    Size K :=
  match lastNamed? ts name with
  | some t => size t
  | none => ⟨Scalar.whole 0, Scalar.whole 0⟩

/-- The places of the tables, for a given size of each. -/
def placesBy (size : TableDefinition → Size K) (ts : List TableDefinition) :
    List (String × Point K) :=
  placeRows (sizeNamed size ts) placementOrigin.y (rowsOf ts)

/-- The tables at their places. Of several tables of one name only the last is placed. -/
def putAt (places : List (String × Point K)) : List (Table K) → List (Table K)
  | [] => []
  | t :: rest =>
    let placed :=
      if rest.any fun other => other.name == t.name then t
      else match places.find? fun p => p.1 == t.name with
        | some (_, position) => t.movedTo position
        | none => t
    placed :: putAt places rest

def arrangeBy (size : TableDefinition → Size K) (ts : List (Table K)) : List (Table K) :=
  putAt (placesBy size (ts.map (·.toTableDefinition))) ts

/-- Places tables in rows (`arrange`). -/
def arrange (metrics : TableMetrics K) (ts : List (Table K)) : List (Table K) :=
  arrangeBy metrics.tableSize ts

end SchemaGraph.Canvas
