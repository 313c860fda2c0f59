/-
# FlightAttitude.Facing — the orientation that faces a direction

The local z axis is to point along `forward` and the local y axis as near to `up` as the right angle
allows. The two directions are made an orthonormal pair, `right = up × forward` completes the basis,
and the matrix with columns `right`, `up`, `forward` is turned into a quaternion: by its trace alone,
or, where half turns have to come out, by its greatest component (`robust`).
-/
import FlightAttitude.Rotation.Matrix

namespace FlightAttitude

universe u

variable {α : Type u}

/-- **`facingBasis forward up`** — the matrix whose columns are the right, up and forward directions. -/
def facingBasis [Zero α] [Add α] [Sub α] [Mul α] [Div α] [SquareRoot α] (forward up : Vec3 α) :
    Mat3 α :=
  let (f, u) := Vec3.orthoNormalize forward up
  .ofColumns (u.cross f) u f

/-- **`Quaternion.facing robust forward up`** — the orientation that faces `forward`. -/
def Quaternion.facing [NatCast α] [Zero α] [One α] [Add α] [Sub α] [Mul α] [Div α] [Neg α]
    [LT α] [DecidableLT α] [LE α] [DecidableLE α] [SquareRoot α]
    (robust : Bool) (forward up : Vec3 α) : Quaternion α :=
  let basis := facingBasis forward up
  if robust then .ofMatrix basis else .ofMatrixTrace basis

end FlightAttitude
