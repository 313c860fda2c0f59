/-
# FlightAttitude.Angle — wrapping and rounding angles in degrees

Two ways of bringing an angle into one turn live side by side and must not be confused.

* `Angle.wrapSigned` brings an angle into `(-180, 180]`, by whole turns counted with a floor. It
  serves signed angles: bank, and reduced attitude vectors.
* `Angle.wrapUnsigned` brings an angle into `[0, 360)`, by the remainder of truncated division and
  one turn added to what is negative. It serves the Euler angles and the heading. A tiny negative
  angle may round up to a whole turn in that addition; it is folded to zero, so that the upper end
  stays open.

`Angle.roundPlaces` rounds to decimal places, a half to the even neighbour.
-/
import FlightAttitude.Scalar

namespace FlightAttitude

universe u

namespace Angle

variable {α : Type u}

/-! ## §1 Wrapping -/

/-- **`wrapSigned a`** — the angle in `(-180, 180]` that lies whole turns away from `a`. The quotient
is that of the distance from the upper end, `(180 - a) / 360`, so that the lower end is the open one. -/
def wrapSigned [NatCast α] [Add α] [Sub α] [Mul α] [Div α] [IntegerParts α] (a : α) : α :=
  a + fullTurn * floor ((halfTurn - a) / fullTurn)

/-- **`wrapUnsigned a`** — the angle in `[0, 360)` that lies whole turns away from `a`. Only what is one
turn exactly is folded to zero; nothing here moves a number that went past it. -/
def wrapUnsigned [NatCast α] [Zero α] [Add α] [LT α] [DecidableLT α] [LE α] [DecidableLE α]
    [IntegerParts α] (a : α) : α :=
  let r := remainder a fullTurn
  let r := if r < 0 then r + fullTurn else r
  if fullTurn ≤ r ∧ r ≤ fullTurn then 0 else r

/-! ## §2 Degrees and radians -/

/-- **`toDegrees x`** — one factor, `180 / π`, so one rounding after that of the factor. -/
def toDegrees [NatCast α] [Mul α] [Div α] [Trigonometry α] (x : α) : α :=
  x * (halfTurn / pi)

/-- **`toRadians x`** — one factor, `π / 180`. -/
def toRadians [NatCast α] [Mul α] [Div α] [Trigonometry α] (x : α) : α :=
  x * (pi / halfTurn)

/-! ## §3 Decimal places -/

/-- **`roundPlaces places x`** — `x` rounded to `places` digits after the point, or, where `places` is
negative, to a multiple of a power of ten. Nothing is done to keep the scaled number finite. -/
def roundPlaces [Mul α] [Div α] [IntegerParts α] [PowersOfTen α] (places : Int) (x : α) : α :=
  match places with
  | .ofNat n => nearest (x * powTen n) / powTen n
  | .negSucc n => nearest (x / powTen (n + 1)) * powTen (n + 1)

end Angle

end FlightAttitude
