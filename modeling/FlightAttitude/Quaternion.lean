/-
# FlightAttitude.Quaternion — rotation quaternions, the scalar part last

A quaternion is a vector part `(x, y, z)` and a scalar part `w`; a unit quaternion stands for the
rotation that turns by the angle `θ` about the axis `u` when its parts are `sin (θ / 2) u` and
`cos (θ / 2)`. The product applies its right factor first.

`Quaternion.inverse` only negates the vector part: it is the inverse of a unit quaternion and of no
other. `Quaternion.normalize` does not trap the zero quaternion; its scale is then not finite.
-/
import FlightAttitude.Vec3

namespace FlightAttitude

universe u v

/-- **`Quaternion`** — vector part and scalar part. -/
@[ext]
structure Quaternion (α : Type u) where
  x : α
  y : α
  z : α
  w : α
  deriving DecidableEq, Repr

namespace Quaternion

variable {α : Type u}

/-- **`map f q`** — the same function on each component. -/
def map {β : Type v} (f : α → β) (q : Quaternion α) : Quaternion β :=
  ⟨f q.x, f q.y, f q.z, f q.w⟩

/-- A quaternion has components, so numerals can number them. -/
@[instance]
theorem someComponents : @NeZero Nat .ofOfNat0 4 := ⟨by decide⟩

/-- **`component q i`** — the components by number. -/
def component (q : Quaternion α) : Fin 4 → α
  | 0 => q.x
  | 1 => q.y
  | 2 => q.z
  | 3 => q.w

/-- **`ofComponents f`** — the quaternion with the components `f 0` to `f 3`. -/
def ofComponents (f : Fin 4 → α) : Quaternion α :=
  ⟨f 0, f 1, f 2, f 3⟩

theorem component_ofComponents (f : Fin 4 → α) (i : Fin 4) : (ofComponents f).component i = f i := by
  match i with
  | 0 | 1 | 2 | 3 => rfl

theorem ofComponents_component (q : Quaternion α) : ofComponents q.component = q := rfl

/-- **`vector q`** — the vector part. -/
def vector (q : Quaternion α) : Vec3 α :=
  ⟨q.x, q.y, q.z⟩

/-- **`ofParts v s`** — the quaternion with vector part `v` and scalar part `s`. -/
def ofParts (v : Vec3 α) (s : α) : Quaternion α :=
  ⟨v.x, v.y, v.z, s⟩

/-- **`identity`** — the rotation by no angle. -/
def identity [Zero α] [One α] : Quaternion α :=
  ⟨0, 0, 0, 1⟩

/-! ## §1 Length -/

/-- **`normSq q`** — the sum of the squares. -/
def normSq [Zero α] [Add α] [Mul α] (q : Quaternion α) : α :=
  0 + q.x * q.x + q.y * q.y + q.z * q.z + q.w * q.w

/-- **`norm q`** — the length. -/
def norm [Zero α] [Add α] [Mul α] [SquareRoot α] (q : Quaternion α) : α :=
  sqrt q.normSq

/-- **`scale k q`** — every component times `k`. -/
def scale [Mul α] (k : α) (q : Quaternion α) : Quaternion α :=
  q.map (· * k)

/-- **`unitScale q`** — the factor that brings `q` to length one. -/
def unitScale [Zero α] [One α] [Add α] [Mul α] [Div α] [SquareRoot α] (q : Quaternion α) : α :=
  1 / q.norm

/-- **`normalize q`** — `q` brought to length one. -/
def normalize [Zero α] [One α] [Add α] [Mul α] [Div α] [SquareRoot α] (q : Quaternion α) :
    Quaternion α :=
  q.scale q.unitScale

/-- **`offUnit q`** — how far the length is from one. -/
def offUnit [Zero α] [One α] [Add α] [Sub α] [Mul α] [Neg α] [LT α] [DecidableLT α]
    [SquareRoot α] (q : Quaternion α) : α :=
  magnitude (q.norm - 1)

/-- **`isFinite q`** — whether every component is. -/
def isFinite [Finiteness α] (q : Quaternion α) : Bool :=
  FlightAttitude.isFinite q.x && FlightAttitude.isFinite q.y && FlightAttitude.isFinite q.z &&
    FlightAttitude.isFinite q.w

/-! ## §2 The group of rotations -/

/-- **`inverse q`** — the vector part negated. -/
def inverse [Neg α] (q : Quaternion α) : Quaternion α :=
  ⟨-q.x, -q.y, -q.z, q.w⟩

/-- **`mul p q`** — the Hamilton product: the rotation `q`, then the rotation `p`. Its vector part is
`p.w v + q.w u + u × v` and its scalar part `p.w q.w - u · v`, for the vector parts `u` of `p` and `v`
of `q`. -/
def mul [Zero α] [Add α] [Sub α] [Mul α] (p q : Quaternion α) : Quaternion α :=
  let c := p.vector.cross q.vector
  ⟨p.w * q.x + q.w * p.x + c.x,
   p.w * q.y + q.w * p.y + c.y,
   p.w * q.z + q.w * p.z + c.z,
   p.w * q.w - p.vector.dot q.vector⟩

instance [Zero α] [Add α] [Sub α] [Mul α] : Mul (Quaternion α) := ⟨mul⟩

end Quaternion

end FlightAttitude
