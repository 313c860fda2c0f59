/-
# FlightAttitude.Decimal.Expansion — the exact decimal value of a float, and rounding it

A finite binary number is a finite decimal one: `m · 2 ^ (-j) = m · 5 ^ j · 10 ^ (-j)`. Rounding to
places or to digits is therefore done on the exact value, once, and a half goes to the even
neighbour; only the last step, back to the nearest float, rounds again.
-/
import FlightAttitude.Scalar.Binary64

namespace FlightAttitude

/-- **`Decimal`** — the number `coefficient · 10 ^ exponent`, never negative. -/
structure Decimal where
  coefficient : Nat
  exponent : Int
  deriving DecidableEq, Repr

namespace Decimal

/-- **`ofBinary64 v`** — the exact magnitude of a binary number. -/
def ofBinary64 (v : Binary64) : Decimal :=
  match v.exponent with
  | .ofNat e => ⟨v.significand * Nat.pow 2 e, 0⟩
  | .negSucc j => ⟨v.significand * Nat.pow 5 (j + 1), .negSucc j⟩

/-- **`digitCount d`** — how many digits the coefficient has; none for zero. -/
def digitCount (d : Decimal) : Nat :=
  if d.coefficient = 0 then 0 else (Nat.toDigits 10 d.coefficient).length

/-- **`drop n d`** — `d` rounded to a multiple of `10 ^ n` of its units, a half to the even neighbour. -/
def drop (n : Nat) (d : Decimal) : Decimal :=
  let unit := Nat.pow 10 n
  let q := d.coefficient / unit
  let r := d.coefficient % unit
  let up := 2 * r > unit || (2 * r == unit && q % 2 == 1)
  ⟨if up then q + 1 else q, d.exponent + n⟩

/-- **`toPlaces k d`** — `d` rounded to `k` digits after the point. -/
def toPlaces (k : Nat) (d : Decimal) : Decimal :=
  d.drop (-(d.exponent + k)).toNat

/-- **`toDigits k d`** — `d` rounded to its first `k` digits. -/
def toDigits (k : Nat) (d : Decimal) : Decimal :=
  d.drop (d.digitCount - k)

/-- **`toFloat d`** — the nearest float; infinite where the number lies beyond them all. -/
def toFloat (d : Decimal) : Float :=
  Float.ofScientific d.coefficient (d.exponent < 0) d.exponent.natAbs

end Decimal

/-- The float nearest to a rounding of the exact value of `x`, which keeps the sign of `x`. -/
def Binary64.rounded (round : Decimal → Decimal) (x : Float) : Float :=
  match ofFloat? x with
  | none => x
  | some v =>
    let r := (round (.ofBinary64 v)).toFloat
    if v.negative then -r else r

/-- **`Binary64.toPlaces k x`** — `x` to `k` digits after the point. -/
def Binary64.toPlaces (k : Nat) (x : Float) : Float :=
  rounded (·.toPlaces k) x

/-- **`Binary64.toDigits k x`** — `x` to its first `k` digits. -/
def Binary64.toDigits (k : Nat) (x : Float) : Float :=
  rounded (·.toDigits k) x

end FlightAttitude
