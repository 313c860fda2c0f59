/-
# FlightAttitude.Numeral.Power — powers with exponents as they are handed in

Exponents that are floats give the powers of `Stack.powers`: nothing is a fault there, and what is no
number or too large comes out undefined or infinite. Where exponents are used as they stand, each
power is a computation of its own that can fail (`checkedPower`): on an exponent that is missing or
beyond every float, on a zero with a negative exponent, and on a power beyond every float. The first
failure is the one that counts; only when there is none, a power that is no real number is refused.
-/
import FlightAttitude.Numeral
import FlightAttitude.Stack.Vectors

namespace FlightAttitude

/-- **`checkedPower x e`** — `x` to the exponent `e`, if that is a real number. An infinite or undefined
operand makes nothing fail. -/
def checkedPower (x e : Float) : Except Fault (Option Float) :=
  let p := RealPower.pow x e
  if !(x.isFinite && e.isFinite) then .ok (some p)
  else if x == 0 && e < 0 then .error .zeroToNegative
  else if x < 0 && e != e.floor then .ok none
  else if p.isInf then .error .beyondFloats
  else .ok (some p)

/-- **`Cell.raise x c`** — the power of `x` by a number that has yet to be read. -/
def Cell.raise (x : Float) (c : Cell) : Except Fault (Option Float) := do
  checkedPower x (← c.toNumber)

/-- A power that has to be a real number. -/
def realPower : Option Float → Except Fault Float
  | some p => .ok p
  | none => .error .notANumber

/-- **`powers v e`** — each cell to the exponent that stands beside it. -/
def powers (v : Operand Float) (e : Except Fault Numeral.Numbers) : Except Fault (Grid Float) := do
  let v ← v
  match ← e with
  | .floats e => Stack.powers v e
  | .unread e =>
    let found ← (← Grid.zipWith Cell.raise v e).traverse id
    found.traverse realPower

end FlightAttitude
