import SchemaGraph.Scalar

/-!
# Points, sizes and rectangles

Plane geometry for two planes: the canvas, on which tables lie, and the screen, on which they are
drawn. The vertical axis points down in both.
-/

namespace SchemaGraph.Canvas

structure Point (K : Type) where
  x : K
  y : K
  deriving DecidableEq, Repr

structure Size (K : Type) where
  width : K
  height : K
  deriving DecidableEq, Repr

/-- A rectangle with its top left corner at `origin`. -/
structure Rect (K : Type) where
  origin : Point K
  size : Size K
  deriving DecidableEq, Repr

variable {K : Type} [Scalar K]

namespace Point

/-- The vector from `q` to `p` (`offset_from`). -/
def minus (p q : Point K) : Point K := ⟨p.x - q.x, p.y - q.y⟩

def same (p q : Point K) : Bool := Scalar.same p.x q.x && Scalar.same p.y q.y

def zero : Point K := ⟨Scalar.whole 0, Scalar.whole 0⟩

end Point

namespace Rect

def right (r : Rect K) : K := r.origin.x + r.size.width

def bottom (r : Rect K) : K := r.origin.y + r.size.height

/-- The point lies in the rectangle or on its edge (`contains`). -/
def contains (r : Rect K) (p : Point K) : Bool :=
  Scalar.atMost r.origin.x p.x && Scalar.atMost p.x r.right &&
    Scalar.atMost r.origin.y p.y && Scalar.atMost p.y r.bottom

end Rect

end SchemaGraph.Canvas
