/-
# FlightAttitude.Mat3 — three by three matrices

A matrix is given by its nine entries, `xy` standing in row `x` and column `y`. Only what the
rotations need is here: entries by number, columns, the skew matrix of a cross product, and the
product with a vector.
-/
import FlightAttitude.Vec3

namespace FlightAttitude

universe u v

/-- **`Mat3`** — nine entries, row by row. -/
@[ext]
structure Mat3 (α : Type u) where
  xx : α
  xy : α
  xz : α
  yx : α
  yy : α
  yz : α
  zx : α
  zy : α
  zz : α
  deriving DecidableEq, Repr

namespace Mat3

variable {α : Type u}

/-- **`row m i`** — the rows by number. -/
def row (m : Mat3 α) : Fin 3 → Vec3 α
  | 0 => ⟨m.xx, m.xy, m.xz⟩
  | 1 => ⟨m.yx, m.yy, m.yz⟩
  | 2 => ⟨m.zx, m.zy, m.zz⟩

/-- **`entry m i j`** — the entry in row `i` and column `j`. -/
def entry (m : Mat3 α) (i j : Fin 3) : α :=
  (m.row i).component j

/-- **`ofRows r`** — the matrix with the rows `r.x`, `r.y`, `r.z`. -/
def ofRows (r : Vec3 (Vec3 α)) : Mat3 α :=
  ⟨r.x.x, r.x.y, r.x.z, r.y.x, r.y.y, r.y.z, r.z.x, r.z.y, r.z.z⟩

/-- **`ofEntries f`** — the matrix with the entries `f i j`. -/
def ofEntries (f : Fin 3 → Fin 3 → α) : Mat3 α :=
  ofRows (.ofComponents fun i => .ofComponents (f i))

theorem entry_ofEntries (f : Fin 3 → Fin 3 → α) (i j : Fin 3) : (ofEntries f).entry i j = f i j := by
  match i, j with
  | 0, 0 | 0, 1 | 0, 2 | 1, 0 | 1, 1 | 1, 2 | 2, 0 | 2, 1 | 2, 2 => rfl

theorem ofEntries_entry (m : Mat3 α) : ofEntries m.entry = m := rfl

/-- **`ofColumns a b c`** — the matrix with these columns. -/
def ofColumns (a b c : Vec3 α) : Mat3 α :=
  ⟨a.x, b.x, c.x, a.y, b.y, c.y, a.z, b.z, c.z⟩

/-- **`trace m`** — the sum of the diagonal. -/
def trace [Zero α] [Add α] (m : Mat3 α) : α :=
  0 + m.xx + m.yy + m.zz

/-- **`skew v`** — the matrix of the cross product with `v` on the left. -/
def skew [Zero α] [Neg α] (v : Vec3 α) : Mat3 α :=
  ⟨0, -v.z, v.y, v.z, 0, -v.x, -v.y, v.x, 0⟩

/-- **`apply m v`** — the matrix times a column. -/
def apply [Zero α] [Add α] [Mul α] (m : Mat3 α) (v : Vec3 α) : Vec3 α :=
  .ofComponents fun i => (m.row i).dot v

end Mat3

end FlightAttitude
