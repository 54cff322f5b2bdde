import SchemaGraph.Schema.Table
import SchemaGraph.Text.Columns

/-!
# The size of a table on the canvas

A table is drawn as a box: a header strip with the name, and a line for each column with its name,
its type and, if it has one, its reference.
-/

namespace SchemaGraph.Canvas

/-- The measures of a drawn table, in units of the canvas. -/
structure TableMetrics (K : Type) where
  charWidth : K
  lineHeight : K
  paddingX : K
  paddingY : K
  headerPadding : K
  minTableWidth : K
  minTableHeight : K
  deriving DecidableEq, Repr

namespace TableMetrics

variable {K : Type} [Scalar K]

def standard : TableMetrics K where
  charWidth := Scalar.whole 8
  lineHeight := Scalar.whole 20
  paddingX := Scalar.whole 12
  paddingY := Scalar.whole 8
  headerPadding := Scalar.whole 10
  minTableWidth := Scalar.whole 200
  minTableHeight := Scalar.whole 60

/-- The width of a text (`text_width`). -/
def textWidth (m : TableMetrics K) (s : String) : K :=
  Scalar.whole (Text.columns s) * m.charWidth

/-- The height of the header strip, by which a table is dragged (`header_height`). -/
def headerHeight (m : TableMetrics K) : K := m.lineHeight + m.headerPadding * Scalar.whole 2

def typeText (c : Column) : String :=
  match c.foreignKey with
  | none => c.typeName
  | some target => c.typeName ++ " -> " ++ target.text

def columnWidth (m : TableMetrics K) (width : String → K) (c : Column) : K :=
  width c.name + width (typeText c) + m.charWidth * Scalar.whole 4

def bodyHeight (m : TableMetrics K) (columns : List Column) : K :=
  if columns.isEmpty then Scalar.whole 0
  else Scalar.whole columns.length * m.lineHeight + m.paddingY * Scalar.whole 2

def tableSizeBy (m : TableMetrics K) (width : String → K) (t : TableDefinition) : Size K :=
  let widest := (t.columns.map (m.columnWidth width)).foldl Scalar.larger (Scalar.whole 0)
  let content := Scalar.larger (width t.name) widest + m.paddingX * Scalar.whole 2
  { width := Scalar.larger content m.minTableWidth
    height := Scalar.larger (m.headerHeight + m.bodyHeight t.columns) m.minTableHeight }

/-- The size of a table (`table_size`). -/
def tableSize (m : TableMetrics K) (t : TableDefinition) : Size K := m.tableSizeBy m.textWidth t

/-- The box of a table (`table_rect`). -/
def tableRect (m : TableMetrics K) (t : Table K) : Rect K :=
  ⟨t.position, m.tableSize t.toTableDefinition⟩

def headerRect (m : TableMetrics K) (t : Table K) : Rect K :=
  ⟨t.position, ⟨(m.tableSize t.toTableDefinition).width, m.headerHeight⟩⟩

end TableMetrics

end SchemaGraph.Canvas
