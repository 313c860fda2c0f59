/-
# FlightAttitude.Stack.Cross — cross products of stacks

The cross product alone sets the first axis aside and lets the columns agree, so one vector goes with
any stack here.

Besides vectors of three components it takes vectors of two, which lie in the plane of the first two
axes. Beside a vector of three, one of two stands for a vector without a third component, and the
terms that would hold it are left out. The product of two vectors of two points along the third axis;
it is the one component there.
-/
import FlightAttitude.Grid.Components

namespace FlightAttitude.Stack

variable {α : Type}

/-! ## §1 The factors -/

/-- **`CrossFactor α`** — a stack that has cross products. -/
inductive CrossFactor (α : Type) where
  /-- Vectors of three components. -/
  | spatial (v : Grid (Vec3 α))
  /-- Vectors of two components. -/
  | planar (v : Grid (α × α))

/-- The stacked pairs of an array, where the first axis is of length two. -/
def pairs? : Grid α → Option (Grid (α × α))
  | ⟨2 :: s, t⟩ => some ⟨s, .ofFn fun p => (t.get (⟨0, by decide⟩, p), t.get (⟨1, by decide⟩, p))⟩
  | _ => none

/-- **`crossFactor g`** — an array as a factor, or the fault of a first axis that is of neither length. -/
def crossFactor (g : Grid α) : Except Fault (CrossFactor α) :=
  match g.vectors?, pairs? g with
  | some v, _ => .ok (.spatial v)
  | none, some v => .ok (.planar v)
  | none, none => .error .noCrossFactor

/-! ## §2 The products -/

/-- **`maxColumnAxes`** — the most axes along which the columns of a factor may be stacked. -/
def maxColumnAxes : Nat := 32

/-- The products of the columns, by the product `f` of two of them. -/
def productsBy {β γ δ : Type} (f : β → γ → δ) (a : Grid β) (b : Grid γ) : Except Fault (Grid δ) :=
  if maxColumnAxes < a.shape.length || maxColumnAxes < b.shape.length then .error .tooManyColumnAxes
  else Grid.zipWith f a b

/-- **`crossVectors a b`** — the cross products of vectors of three components. -/
def crossVectors [Sub α] [Mul α] (a b : Grid (Vec3 α)) : Except Fault (Grid (Vec3 α)) :=
  productsBy Vec3.cross a b

/-- **`CrossFactor.cross a b`** — the cross products of two factors. -/
def CrossFactor.cross [Sub α] [Mul α] [Neg α] : CrossFactor α → CrossFactor α → Except Fault (Grid α)
  | .spatial a, .spatial b => (crossVectors a b).map Grid.ofVectors
  | .spatial a, .planar b =>
    let product (v : Vec3 α) (w : α × α) : Vec3 α :=
      ⟨-(v.z * w.2), v.z * w.1, v.x * w.2 - v.y * w.1⟩
    (productsBy product a b).map Grid.ofVectors
  | .planar a, .spatial b =>
    let product (v : α × α) (w : Vec3 α) : Vec3 α :=
      ⟨v.2 * w.z, -(v.1 * w.z), v.1 * w.y - v.2 * w.x⟩
    (productsBy product a b).map Grid.ofVectors
  | .planar a, .planar b => productsBy (fun v w => v.1 * w.2 - v.2 * w.1) a b

/-- **`cross a b`** — the cross product of the columns. -/
def cross [Sub α] [Mul α] [Neg α] (a b : Operand α) : Except Fault (Grid α) := do
  let a ← a
  let b ← b
  let a ← crossFactor a
  let b ← crossFactor b
  a.cross b

end FlightAttitude.Stack
