/-
# FlightAttitude.Converter — conversions that check their quaternions and round their angles

The functions on stacks take every quaternion to be of length one. A converter looks first: by its
`check` it takes the quaternions as they are, brings all of them to length one, or tests them against
its tolerance and, where one of them fails, refuses them or warns and brings all of them to length
one. A stack is judged as a whole.

After the conversion the angles are rounded to decimal places, if any are set, and those that live in
a half open range are wrapped back into it, since rounding can carry an angle onto its open end.
-/
import FlightAttitude.Stack.Attitudes
import FlightAttitude.Stack.Facing

namespace FlightAttitude

/-- **`Converter α`** — what a conversion depends on. -/
structure Converter (α : Type) where
  check : UnitCheck
  /-- How far from one a length may be; looked at only where lengths are tested. -/
  tolerance : Operand (Stack.Tolerance α)
  /-- Whether facing orientations are found by the greatest component. -/
  robust : Bool
  /-- The decimal places that angles are rounded to, if any; looked at only where angles are rounded. -/
  places : Except Fault (Option Int)

namespace Converter

variable {α : Type}

/-! ## §1 Checking -/

/-- **`prepare c q`** — the quaternions to be converted. -/
def prepare [Zero α] [One α] [Add α] [Sub α] [Mul α] [Div α] [Neg α] [LT α] [DecidableLT α]
    [SquareRoot α] [Finiteness α] (c : Converter α) (q : Operand α) : Report (Grid α) := do
  let q ← q
  match c.check with
  | .ignore => return q
  | .normalize => Stack.normalize q
  -- one quaternion that is off is enough to normalize or refuse the whole stack
  | .warn =>
    if (← Stack.areUnit q c.tolerance).toList.all id then return q
    Report.say .normalizing
    Stack.normalize q
  | .raise =>
    if (← Stack.areUnit q c.tolerance).toList.all id then return q
    Report.fail .nonUnit

/-! ## §2 Rounding -/

/-- **`round c wrap angles`** — angles rounded to the places of the converter, then wrapped. -/
def round [Mul α] [Div α] [IntegerParts α] [PowersOfTen α] (c : Converter α) (wrap : α → α)
    (angles : Grid α) : Except Fault (Grid α) := do
  match ← c.places with
  | none => return angles
  | some n => return angles.map fun x => wrap (Angle.roundPlaces n x)

/-! ## §3 Conversions -/

section Conversions

variable [NatCast α] [Zero α] [One α] [Add α] [Sub α] [Mul α] [Div α] [Neg α]
  [LT α] [DecidableLT α] [LE α] [DecidableLE α] [SquareRoot α] [Finiteness α]
  [IntegerParts α] [PowersOfTen α] [Trigonometry α]

/-- **`eulerAngles c order q`** — the Euler angles of the prepared quaternions. -/
def eulerAngles (c : Converter α) (order : Datum) (q : Operand α) : Report (Grid α) := do
  let q ← c.prepare q
  let angles ← Stack.eulerAngles order q
  c.round Angle.wrapUnsigned angles

/-- **`attitudes c q`** — the flight attitude of the prepared quaternions. -/
def attitudes (c : Converter α) (q : Operand α) : Report (Attitude (Grid α)) := do
  let q ← c.prepare q
  let a ← Stack.attitudes q
  return {
    pitch := ← c.round id a.pitch
    heading := ← c.round Angle.wrapUnsigned a.heading
    roll := ← c.round Angle.wrapSigned a.roll }

/-- **`inverses c q`** — the inverses of the prepared quaternions. -/
def inverses (c : Converter α) (q : Operand α) : Report (Grid α) := do
  let q ← c.prepare q
  Stack.inverses q

/-- **`facing c forward up`** — the orientations that face `forward`. -/
def facing (c : Converter α) (forward up : Operand α) : Report (Grid α) :=
  Stack.facing (.ok c.robust) forward up

/-- **`Conversion α`** — a call of a converter. -/
inductive Conversion (α : Type) where
  | prepare (q : Operand α)
  | inverses (q : Operand α)
  | attitudes (q : Operand α)
  | pitches (q : Operand α)
  | headings (q : Operand α)
  | rolls (q : Operand α)
  | eulerAngles (order : Datum) (q : Operand α)
  | facing (forward up : Operand α)

/-- **`Converted α`** — what a conversion answers. -/
inductive Converted (α : Type) where
  | array (a : Grid α)
  | attitudes (a : Attitude (Grid α))

/-- **`convert c x`** — the conversion `x`. -/
def convert (c : Converter α) : Conversion α → Report (Converted α)
  | .prepare q => .array <$> c.prepare q
  | .inverses q => .array <$> c.inverses q
  | .attitudes q => .attitudes <$> c.attitudes q
  | .pitches q => (.array ·.pitch) <$> c.attitudes q
  | .headings q => (.array ·.heading) <$> c.attitudes q
  | .rolls q => (.array ·.roll) <$> c.attitudes q
  | .eulerAngles order q => .array <$> c.eulerAngles order q
  | .facing forward up => .array <$> c.facing forward up

end Conversions

end Converter

end FlightAttitude
