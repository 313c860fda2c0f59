/-
# FlightAttitude.Scalar.Binary64 — the operations on binary floating numbers of 64 bits

`Float` supplies correctly rounded `+`, `-`, `*`, `/`, the square root and the circular functions.
The rest is given here: the exact value of a finite number as `± m · 2 ^ e` (`Binary64.ofFloat?`), and
the operations that Lean's core lacks.

* `Binary64.remainder` — the remainder of truncated division, computed on integers.
* `Binary64.nearest` — rounding to an integer with halves to even. Adding and taking away `2 ^ 52`
  leaves the rounding to the addition; numbers of that size and above are integers already.
* `Binary64.powTen` — powers of ten by repeated multiplication: exact up to `10 ^ 22`, infinite from
  `10 ^ 309` on.
* `Binary64.powShared` — powers with a common exponent, exact up to one rounding for five exponents.
-/
import FlightAttitude.Scalar

namespace FlightAttitude

/-! ## §1 The exact value of a finite number -/

/-- **`Binary64`** — the value `± significand · 2 ^ exponent`. -/
structure Binary64 where
  negative : Bool
  significand : Nat
  exponent : Int
  deriving DecidableEq, Repr

namespace Binary64

/-- **`hiddenUnit`** — `2 ^ 52`, the leading bit of a significand, which is not stored. -/
def hiddenUnit : Nat := 4503599627370496

/-- **`ofBits? bits`** — a finite number from its bits: one bit of sign, eleven of exponent, fifty-two
of fraction. The infinities and the undefined number have no value. -/
def ofBits? (bits : Nat) : Option Binary64 :=
  let negative := bits / hiddenUnit / 2048 % 2 == 1
  let fraction := bits % hiddenUnit
  match bits / hiddenUnit % 2048 with
  -- the smallest numbers have no leading bit beyond the fraction
  | 0 => some ⟨negative, fraction, -1074⟩
  | 2047 => none
  | e => some ⟨negative, hiddenUnit + fraction, (e : Int) - 1075⟩

/-- **`ofFloat? x`** — the exact value of a float. -/
def ofFloat? (x : Float) : Option Binary64 :=
  ofBits? x.toBits.toNat

/-! ## §2 Operations that core lacks -/

/-- The undefined number, and the number above all others. -/
def undefined : Float := 0 / 0

@[inherit_doc undefined] def infinity : Float := 1 / 0

/-- The remainder of the magnitudes in units of `2 ^ k`, with that `k`, the smaller exponent. -/
def remainderUnits (a b : Binary64) : Nat × Int :=
  let k := min a.exponent b.exponent
  let units (v : Binary64) : Nat := v.significand * Nat.pow 2 (v.exponent - k).toNat
  (units a % units b, k)

/-- **`remainder a b`** — the remainder of truncated division. It is smaller than `b` and a multiple of
the finer of the two grids, so it is representable; its sign is that of `a`. -/
def remainder (a b : Float) : Float :=
  match ofFloat? a, ofFloat? b with
  | some x, some y =>
    if y.significand = 0 then undefined
    else
      let (units, k) := remainderUnits x y
      let r := (Float.ofNat units).scaleB k
      if x.negative then -r else r
  | some _, none => if b.isInf then a else undefined
  | none, _ => undefined

/-- **`nearest x`** — the nearest integer, a half to the even neighbour; the sign of a zero stays. -/
def nearest (x : Float) : Float :=
  let grid : Float := 4503599627370496
  if x < 0 then
    if x ≤ -grid then x else -((-x + grid) - grid)
  else if 0 < x then
    if grid ≤ x then x else (x + grid) - grid
  else x

/-- **`powTen n`** — `10 ^ n`, multiplied up from one. No factor after the four hundredth changes it. -/
def powTen (n : Nat) : Float :=
  Nat.repeat (· * 10) (min n 400) 1

/-- **`powShared x e`** — `x` to an exponent that many numbers are raised to. With the exponents `-1`, `0`,
`1 / 2`, `1` and `2` it is the reciprocal, one, the square root, `x` itself and the square, each rounded
correctly, which `Float.pow` does not promise. The square root of negative infinity is undefined and
that of a negative zero is the same zero; `Float.pow` makes them infinity and zero. -/
def powShared (x e : Float) : Float :=
  if e == -1 then 1 / x
  else if e == 0 then 1
  else if e == 0.5 then x.sqrt
  else if e == 1 then x
  else if e == 2 then x * x
  else x.pow e

end Binary64

/-! ## §3 Instances -/

instance natCastFloat : NatCast Float := ⟨Float.ofNat⟩

instance : IntegerParts Float where
  floor := Float.floor
  nearest := Binary64.nearest
  remainder := Binary64.remainder

instance : SquareRoot Float := ⟨Float.sqrt⟩

instance : Finiteness Float := ⟨Float.isFinite⟩

instance : Trigonometry Float where
  pi := 3.141592653589793
  sin := Float.sin
  cos := Float.cos
  arcsin := Float.asin
  arctan2 := Float.atan2

instance : PowersOfTen Float := ⟨Binary64.powTen⟩

instance : RealPower Float where
  pow := Float.pow
  powShared := Binary64.powShared

instance : Narrowing Float := ⟨fun x => x.toFloat32.toFloat⟩

end FlightAttitude
