import Wordsmith.Style.Basic

/-!
# Page geometry
-/

namespace Wordsmith

/-- The width and height of a page in twips. -/
structure PageSize where
  width : Int := 12240
  height : Int := 15840
deriving DecidableEq

/-- The margins of a page in twips. Header and footer are distances from its edges. -/
structure PageMargins where
  top : Int := 1440
  right : Int := 1440
  bottom : Int := 1440
  left : Int := 1440
  header : Int := 720
  footer : Int := 720
  gutter : Int := 0
deriving DecidableEq

/-- A paper size that can be chosen by name. -/
inductive Paper where
  | letter
  | legal
  | a4
  | a3
  | a5
  | executive
  | tabloid
deriving DecidableEq, Repr

namespace Paper

/-- All paper sizes with their names, in the order in which they are offered. -/
def names : List (String × Paper) :=
  [("letter", .letter), ("legal", .legal), ("a4", .a4), ("a3", .a3), ("a5", .a5),
   ("executive", .executive), ("tabloid", .tabloid)]

/-- Width and height in points. -/
def points : Paper → Nat × Nat
  | .letter => (612, 792)
  | .legal => (612, 1008)
  | .a4 => (595, 842)
  | .a3 => (842, 1191)
  | .a5 => (420, 595)
  | .executive => (522, 756)
  | .tabloid => (792, 1224)

/-- The page of a paper size; a point is twenty twips. -/
def pageSize (p : Paper) : PageSize := ⟨20 * (p.points.1 : Int), 20 * (p.points.2 : Int)⟩

end Paper

end Wordsmith
