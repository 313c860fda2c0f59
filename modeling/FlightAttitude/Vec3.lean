/-
# FlightAttitude.Vec3 — vectors of three components

The algebra of one vector: sums of products start from zero and take the components in order, the
cross product is right handed, and `Vec3.orthoNormalize` is the stabilised Gram-Schmidt step for a
pair. Nothing traps a degenerate input: a zero vector has no direction, and division by its length
leaves undefined components.
-/
import FlightAttitude.Scalar

namespace FlightAttitude

universe u v

/-- **`Vec3`** — the components along the three axes. -/
@[ext]
structure Vec3 (α : Type u) where
  x : α
  y : α
  z : α
  deriving DecidableEq, Repr

namespace Vec3

variable {α : Type u}

/-- **`map f v`** — the same function on each component. -/
def map {β : Type v} (f : α → β) (v : Vec3 α) : Vec3 β :=
  ⟨f v.x, f v.y, f v.z⟩

/-- A vector has components, so numerals can number them. -/
@[instance]
theorem someComponents : @NeZero Nat .ofOfNat0 3 := ⟨by decide⟩

/-- **`component v i`** — the components by number. -/
def component (v : Vec3 α) : Fin 3 → α
  | 0 => v.x
  | 1 => v.y
  | 2 => v.z

/-- **`ofComponents f`** — the vector with the components `f 0`, `f 1`, `f 2`. -/
def ofComponents (f : Fin 3 → α) : Vec3 α :=
  ⟨f 0, f 1, f 2⟩

theorem component_ofComponents (f : Fin 3 → α) (i : Fin 3) : (ofComponents f).component i = f i := by
  match i with
  | 0 | 1 | 2 => rfl

theorem ofComponents_component (v : Vec3 α) : ofComponents v.component = v := rfl

/-! ## §1 Products and length -/

/-- **`dot a b`** — the inner product. -/
def dot [Zero α] [Add α] [Mul α] (a b : Vec3 α) : α :=
  0 + a.x * b.x + a.y * b.y + a.z * b.z

/-- **`cross a b`** — the right handed product. -/
def cross [Sub α] [Mul α] (a b : Vec3 α) : Vec3 α :=
  ⟨a.y * b.z - a.z * b.y, a.z * b.x - a.x * b.z, a.x * b.y - a.y * b.x⟩

/-- **`norm v`** — the length. -/
def norm [Zero α] [Add α] [Mul α] [SquareRoot α] (v : Vec3 α) : α :=
  sqrt (v.dot v)

/-- **`scale k v`** — every component times `k`. -/
def scale [Mul α] (k : α) (v : Vec3 α) : Vec3 α :=
  v.map (· * k)

/-- **`sub a b`** — the difference. -/
def sub [Sub α] (a b : Vec3 α) : Vec3 α :=
  ⟨a.x - b.x, a.y - b.y, a.z - b.z⟩

instance [Sub α] : Sub (Vec3 α) := ⟨sub⟩

/-! ## §2 Directions -/

/-- **`unit v`** — the vector of length one in the direction of `v`. -/
def unit [Zero α] [Add α] [Mul α] [Div α] [SquareRoot α] (v : Vec3 α) : Vec3 α :=
  v.map (· / v.norm)

/-- **`reject t n`** — what is left of `t` when its part along the unit vector `n` is taken away. -/
def reject [Zero α] [Add α] [Sub α] [Mul α] (t n : Vec3 α) : Vec3 α :=
  t - n.scale (t.dot n)

/-- **`orthoNormalize normal tangent`** — a pair of unit vectors at a right angle. The first keeps the
direction of `normal`; the second is `tangent` turned in their common plane. The tangent is made a
unit vector before its part along the normal is removed, so their lengths do not disturb each other. -/
def orthoNormalize [Zero α] [Add α] [Sub α] [Mul α] [Div α] [SquareRoot α]
    (normal tangent : Vec3 α) : Vec3 α × Vec3 α :=
  let n := normal.unit
  (n, (tangent.unit.reject n).unit)

/-- **`isFinite v`** — whether every component is. -/
def isFinite [Finiteness α] (v : Vec3 α) : Bool :=
  FlightAttitude.isFinite v.x && FlightAttitude.isFinite v.y && FlightAttitude.isFinite v.z

theorem isFinite_iff [Finiteness α] (v : Vec3 α) :
    v.isFinite = true ↔ ∀ i, FlightAttitude.isFinite (v.component i) = true := by
  simp only [isFinite, Bool.and_eq_true]
  constructor
  · rintro ⟨⟨hx, hy⟩, hz⟩ i
    match i with
    | 0 => exact hx
    | 1 => exact hy
    | 2 => exact hz
  · intro h
    exact ⟨⟨h 0, h 1⟩, h 2⟩

end Vec3

end FlightAttitude
