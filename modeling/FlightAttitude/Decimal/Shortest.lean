/-
# FlightAttitude.Decimal.Shortest — the fewest digits that read back

Reading a decimal gives the nearest float, so the decimals that read back as a float `m · 2 ^ e` are
those of an interval around it: half a step up and half a step down, or a quarter of the upper step
down where the float is a power of two, and with both ends where `m` is even. Of the decimals with
one digit, then with two, and so on to seventeen, the first grid that has a point in the interval
wins. If a point of a grid lies in the interval, so does one of the two neighbours of the float on
that grid, so only these two are tried; of two hits the nearer is taken, of two equally near the even
one.
-/
import FlightAttitude.Decimal.Expansion

namespace FlightAttitude.Decimal

/-- **`Interval`** — a float in quarters of its step, `2 ^ scale`, with the bounds of what reads back. -/
structure Interval where
  low : Nat
  value : Nat
  high : Nat
  scale : Int
  closed : Bool
  deriving Repr

/-- **`Interval.ofBinary64 v`** — the decimals that read back as `v`. -/
def Interval.ofBinary64 (v : Binary64) : Interval where
  low := 4 * v.significand - if v.significand = Binary64.hiddenUnit && v.exponent > -1074 then 1 else 2
  value := 4 * v.significand
  high := 4 * v.significand + 2
  scale := v.exponent - 2
  closed := v.significand % 2 == 0

/-- **`Interval.nearestOn i k`** — the multiple of `10 ^ k` that reads back and is nearest, if one of the
two neighbours does; a tie goes to the even one. Both sides of every comparison are brought to whole
numbers. -/
def Interval.nearestOn (i : Interval) (k : Int) : Option Nat :=
  -- `decimal` is a step of the grid and `binary` one of the interval, in a unit that divides both
  let decimal := Nat.pow 10 k.toNat * Nat.pow 2 (-i.scale).toNat
  let binary := Nat.pow 10 (-k).toNat * Nat.pow 2 i.scale.toNat
  let value := i.value * binary
  let inside (c : Nat) : Bool :=
    let x := c * decimal
    if i.closed then i.low * binary ≤ x && x ≤ i.high * binary
    else i.low * binary < x && x < i.high * binary
  let below := value / decimal
  match inside below, inside (below + 1) with
  | true, true =>
    let down := value - below * decimal
    let up := (below + 1) * decimal - value
    if down < up || (down == up && below % 2 == 0) then some below else some (below + 1)
  | true, false => some below
  | false, true => some (below + 1)
  | false, false => none

/-- A decimal without the zeros at the end of its coefficient. -/
def trimmed (c : Nat) (k : Int) : Decimal :=
  let digits := Nat.toDigits 10 c
  let zeros := (digits.reverse.takeWhile (· == '0')).length
  ⟨c / Nat.pow 10 zeros, k + zeros⟩

/-- **`shortest v`** — the decimal with the fewest digits that reads back as `v`, which is not zero. -/
def shortest (v : Binary64) : Decimal :=
  let exact := ofBinary64 v
  let top : Int := exact.exponent + exact.digitCount
  let i := Interval.ofBinary64 v
  -- a grid of seventeen digits always has a point in the interval
  match (List.range 17).findSome? fun (n : Nat) =>
      let k : Int := top - (n + 1)
      (i.nearestOn k).map (trimmed · k) with
  | some d => d
  | none => exact

/-- The float nearest to a tenth reads back from one digit. -/
example : shortest ⟨false, 3602879701896397, -55⟩ = ⟨1, -1⟩ := by decide +kernel

/-- The float `19268865033261.9375` lies halfway between two numbers that read back; the even one is
taken. -/
example : shortest ⟨false, 4932829448515056, -8⟩ = ⟨19268865033261938, -3⟩ := by decide +kernel

end FlightAttitude.Decimal
