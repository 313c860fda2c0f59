/-
# FlightAttitude.Attitude — Euler angles and the flight attitude

A rotation is taken apart as a turn by `aboutY` about the y axis, then by `aboutZ` about the z axis,
then by `aboutX` about the x axis, each about the fixed axes; all three are degrees in `[0, 360)`.
From the entries `t` of the matrix, `aboutY = atan2 (t xz) (t xx)`, `aboutZ = asin (- t xy)` and
`aboutX = atan2 (t zy) (t yy)`.

Where the middle angle is a right angle the outer two turn about one line and only their sum or
difference is determined. Within `gimbalLockTolerance` of that, `aboutZ` is set to the right angle,
`aboutY` to zero, and the whole turn is given to `aboutX = atan2 (- t yz) (t zz)`.

The flight attitude reads the same three angles as heading (about x), pitch (about z, nose up
positive) and roll (about y, right wing down positive).
-/
import FlightAttitude.Angle
import FlightAttitude.Rotation.Matrix

namespace FlightAttitude

universe u v

variable {α : Type u}

/-! ## §1 Euler angles -/

/-- **`EulerAngles`** — the turns about y, then z, then x. -/
@[ext]
structure EulerAngles (α : Type u) where
  aboutY : α
  aboutZ : α
  aboutX : α
  deriving DecidableEq, Repr

namespace EulerAngles

/-- **`map f e`** — the same function on each angle. -/
def map {β : Type v} (f : α → β) (e : EulerAngles α) : EulerAngles β :=
  ⟨f e.aboutY, f e.aboutZ, f e.aboutX⟩

/-- **`toVec3 e`** — the angles in the order of turning. -/
def toVec3 (e : EulerAngles α) : Vec3 α :=
  ⟨e.aboutY, e.aboutZ, e.aboutX⟩

end EulerAngles

/-- **`gimbalLockTolerance`** — how near to one the sine of the middle angle may come before the outer
two are no longer told apart. -/
def gimbalLockTolerance [NatCast α] [One α] [Div α] : α :=
  1 / Nat.cast 1000000000000

/-- **`Mat3.middleSine m`** — the sine of the middle angle, moved into the range of a sine. -/
def Mat3.middleSine [One α] [Neg α] [LT α] [DecidableLT α] (m : Mat3 α) : α :=
  clip (-1) 1 (-m.xy)

/-- **`Mat3.eulerRadians m`** — the three angles of a rotation matrix in radians, not yet wrapped. -/
def Mat3.eulerRadians [NatCast α] [Zero α] [One α] [Sub α] [Div α] [Neg α] [LT α] [DecidableLT α]
    [LE α] [DecidableLE α] [Trigonometry α] (m : Mat3 α) : EulerAngles α :=
  let s := m.middleSine
  if 1 - gimbalLockTolerance ≤ magnitude s then
    { aboutY := 0
      aboutZ := if s < 0 then -(pi / two) else pi / two
      aboutX := arctan2 (-m.yz) m.zz }
  else
    { aboutY := arctan2 m.xz m.xx
      aboutZ := arcsin s
      aboutX := arctan2 m.zy m.yy }

/-- **`Mat3.eulerAngles m`** — the three angles of a rotation matrix, in degrees. -/
def Mat3.eulerAngles [NatCast α] [Zero α] [One α] [Add α] [Sub α] [Mul α] [Div α] [Neg α]
    [LT α] [DecidableLT α] [LE α] [DecidableLE α] [IntegerParts α] [Trigonometry α]
    (m : Mat3 α) : EulerAngles α :=
  m.eulerRadians.map fun a => Angle.wrapUnsigned (Angle.toDegrees a)

/-- **`Quaternion.eulerAngles q`** — the three angles of a unit quaternion, in degrees. -/
def Quaternion.eulerAngles [NatCast α] [Zero α] [One α] [Add α] [Sub α] [Mul α] [Div α] [Neg α]
    [LT α] [DecidableLT α] [LE α] [DecidableLE α] [IntegerParts α] [Trigonometry α]
    (q : Quaternion α) : EulerAngles α :=
  q.toMatrix.eulerAngles

/-! ## §2 Pitch, heading and roll -/

/-- **`Attitude`** — the flight attitude. For angles that come from a unit quaternion, pitch is in
`[-90, 90]`, heading in `[0, 360)` and roll in `(-180, 180]`. -/
@[ext]
structure Attitude (α : Type u) where
  pitch : α
  heading : α
  roll : α
  deriving DecidableEq, Repr

/-- **`Attitude.map f a`** — the same function on each angle. -/
def Attitude.map {β : Type v} (f : α → β) (a : Attitude α) : Attitude β :=
  ⟨f a.pitch, f a.heading, f a.roll⟩

/-- **`EulerAngles.attitude e`** — Euler angles in `[0, 360)` read as a flight attitude. The pitch
changes branch strictly above a half turn, the roll from a quarter turn on. -/
def EulerAngles.attitude [NatCast α] [Sub α] [Neg α] [LT α] [DecidableLT α] [LE α] [DecidableLE α]
    (e : EulerAngles α) : Attitude α where
  pitch := if halfTurn < e.aboutZ then fullTurn - e.aboutZ else -e.aboutZ
  heading := e.aboutX
  roll := if quarterTurn ≤ e.aboutY then threeQuarterTurn - e.aboutY else -quarterTurn - e.aboutY

/-- **`Quaternion.attitude q`** — the flight attitude of a unit quaternion. -/
def Quaternion.attitude [NatCast α] [Zero α] [One α] [Add α] [Sub α] [Mul α] [Div α] [Neg α]
    [LT α] [DecidableLT α] [LE α] [DecidableLE α] [IntegerParts α] [Trigonometry α]
    (q : Quaternion α) : Attitude α :=
  q.eulerAngles.attitude

end FlightAttitude
