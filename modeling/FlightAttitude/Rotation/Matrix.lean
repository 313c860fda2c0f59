/-
# FlightAttitude.Rotation.Matrix — quaternions and rotation matrices

`Quaternion.toMatrix` is `(w² - v·v) I + 2 v vᵀ + 2 w [v ×]`, entry by entry: the matrix turns a vector,
it does not change axes.

`Quaternion.ofMatrix` goes back. Of the four components it computes the one that is largest in size,
from the diagonal, and the other three from sums and differences of entries across the diagonal,
divided by it; so it never divides by a small number, half turns included. The case is chosen by the
greatest of the three diagonal entries and the trace, and the sign by the rule that the scalar part
is not negative.

`Quaternion.ofMatrixTrace` is the short way that always starts from the scalar part. It breaks down
near half turns.
-/
import FlightAttitude.Mat3
import FlightAttitude.Quaternion

namespace FlightAttitude

universe u

variable {α : Type u}

/-! ## §1 From quaternion to matrix -/

/-- **`Quaternion.toMatrix q`** — the matrix that turns a column vector by `q`. -/
def Quaternion.toMatrix [NatCast α] [Zero α] [One α] [Add α] [Sub α] [Mul α] [Neg α]
    (q : Quaternion α) : Mat3 α :=
  let v := q.vector
  let square := q.w * q.w - v.dot v
  let entry (identity outer cross : α) : α :=
    square * identity + two * (0 + outer) + two * q.w * cross
  let k := Mat3.skew v
  ⟨entry 1 (v.x * v.x) k.xx, entry 0 (v.x * v.y) k.xy, entry 0 (v.x * v.z) k.xz,
   entry 0 (v.y * v.x) k.yx, entry 1 (v.y * v.y) k.yy, entry 0 (v.y * v.z) k.yz,
   entry 0 (v.z * v.x) k.zx, entry 0 (v.z * v.y) k.zy, entry 1 (v.z * v.z) k.zz⟩

/-- **`Quaternion.rotate q v`** — the vector `v` turned by `q`. -/
def Quaternion.rotate [NatCast α] [Zero α] [One α] [Add α] [Sub α] [Mul α] [Neg α]
    (q : Quaternion α) (v : Vec3 α) : Vec3 α :=
  q.toMatrix.apply v

/-! ## §2 From matrix to quaternion -/

/-- **`Mat3.squares m`** — four times the square of each component, as the diagonal tells it; never
below zero, whatever the rounding. -/
def Mat3.squares [NatCast α] [Zero α] [One α] [Add α] [Sub α] [Mul α] [LT α] [DecidableLT α]
    (m : Mat3 α) : Quaternion α :=
  let t := m.trace
  Quaternion.map atLeastZero
    ⟨1 + two * m.xx - t, 1 + two * m.yy - t, 1 + two * m.zz - t, 1 + t⟩

/-- **`Mat3.sizes m`** — the size of each component. -/
def Mat3.sizes [NatCast α] [Zero α] [One α] [Add α] [Sub α] [Mul α] [Div α] [LT α] [DecidableLT α]
    [SquareRoot α] (m : Mat3 α) : Quaternion α :=
  m.squares.map fun s => 1 / two * sqrt s

/-- **`Quaternion.Part`** — the four components of a quaternion, by name. -/
inductive Quaternion.Part where
  | x
  | y
  | z
  | w
  deriving DecidableEq, Repr

/-- **`Mat3.greatest m`** — the component that goes with the greatest of the diagonal entries and the
trace: an entry belongs to its axis, the trace to the scalar part. -/
def Mat3.greatest [Zero α] [Add α] [LE α] [DecidableLE α] (m : Mat3 α) : Quaternion.Part :=
  let better (best : Quaternion.Part × α) (p : Quaternion.Part) (x : α) : Quaternion.Part × α :=
    if exceeds best.2 x then (p, x) else best
  (better (better (better (.x, m.xx) .y m.yy) .z m.zz) .w m.trace).1

/-- **`Mat3.caseOf m p`** — the quaternion of `m` computed from its component `p`. -/
def Mat3.caseOf [NatCast α] [Zero α] [One α] [Add α] [Sub α] [Mul α] [Div α] [LT α] [DecidableLT α]
    [SquareRoot α] (m : Mat3 α) (p : Quaternion.Part) : Quaternion α :=
  -- what a sum or a difference of entries is multiplied by
  let share (size : α) : α := 1 / Nat.cast 4 / size
  let sizes := m.sizes
  match p with
  | .x =>
    let k := share sizes.x
    ⟨sizes.x, (m.xy + m.yx) * k, (m.xz + m.zx) * k, (m.zy - m.yz) * k⟩
  | .y =>
    let k := share sizes.y
    ⟨(m.xy + m.yx) * k, sizes.y, (m.yz + m.zy) * k, (m.xz - m.zx) * k⟩
  | .z =>
    let k := share sizes.z
    ⟨(m.xz + m.zx) * k, (m.yz + m.zy) * k, sizes.z, (m.yx - m.xy) * k⟩
  | .w =>
    let k := share sizes.w
    ⟨(m.zy - m.yz) * k, (m.xz - m.zx) * k, (m.yx - m.xy) * k, sizes.w⟩

/-- **`Quaternion.withScalarNonneg q`** — `q` or its negative, whichever has no negative scalar part. -/
def Quaternion.withScalarNonneg [Zero α] [One α] [Mul α] [Neg α] [LT α] [DecidableLT α]
    (q : Quaternion α) : Quaternion α :=
  q.scale (if q.w < 0 then -1 else 1)

/-- **`Quaternion.ofMatrix m`** — the quaternion of a rotation matrix, its scalar part not negative. -/
def Quaternion.ofMatrix [NatCast α] [Zero α] [One α] [Add α] [Sub α] [Mul α] [Div α] [Neg α]
    [LT α] [DecidableLT α] [LE α] [DecidableLE α] [SquareRoot α] (m : Mat3 α) : Quaternion α :=
  (m.caseOf m.greatest).withScalarNonneg

/-- **`Quaternion.ofMatrixTrace m`** — the quaternion of a rotation matrix, by way of its scalar part
alone. -/
def Quaternion.ofMatrixTrace [NatCast α] [One α] [Add α] [Sub α] [Mul α] [Div α] [SquareRoot α]
    (m : Mat3 α) : Quaternion α :=
  let w := sqrt (1 + m.xx + m.yy + m.zz) * (1 / two)
  let k := 1 / Nat.cast 4 / w
  ⟨(m.zy - m.yz) * k, (m.xz - m.zx) * k, (m.yx - m.xy) * k, w⟩

end FlightAttitude
