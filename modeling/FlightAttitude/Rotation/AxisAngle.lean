/-
# FlightAttitude.Rotation.AxisAngle — the rotation about an axis by an angle

The axis may have any length but zero; the angle is in degrees and right handed.
-/
import FlightAttitude.Angle
import FlightAttitude.Quaternion

namespace FlightAttitude

universe u

variable {α : Type u}

/-- **`Angle.half a`** — half of an angle in degrees, in radians. -/
def Angle.half [NatCast α] [Mul α] [Div α] [Trigonometry α] (a : α) : α :=
  Angle.toRadians a / two

/-- **`Quaternion.ofAxisAngle axis angle`** — the rotation about `axis` by `angle` degrees. -/
def Quaternion.ofAxisAngle [NatCast α] [Zero α] [Add α] [Mul α] [Div α] [SquareRoot α]
    [Trigonometry α] (axis : Vec3 α) (angle : α) : Quaternion α :=
  .ofParts (axis.unit.scale (sin (Angle.half angle))) (cos (Angle.half angle))

end FlightAttitude
