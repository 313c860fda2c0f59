/-
# FlightAttitude.Numeral.Tolerance — tolerances as they are handed in

A tolerance that is a float bounds the distance of a length from one. Where tolerances are used as
they stand, a whole number is compared exactly, however large it is, and a missing one can be
compared with nothing: that is a fault as soon as there is a length to compare it with.
-/
import FlightAttitude.Numeral
import FlightAttitude.Stack.Quaternions

namespace FlightAttitude

/-- **`Cell.tolerance c`** — a number as a tolerance. -/
def Cell.tolerance : Cell → Stack.Tolerance Float
  | number t => Stack.upTo t
  | integer i => fun x => .ok ((Datum.Size.ofFloat x).atMost (.finite i 0))
  | flag b => Stack.upTo (if b then 1 else 0)
  | missing => fun _ => .error .notANumber

/-- **`Numeral.tolerances n`** — an argument as an array of tolerances. -/
def Numeral.tolerances (n : Numeral) : Except Fault (Grid (Stack.Tolerance Float)) := do
  match ← n.numbers with
  | .floats g => return g.map Stack.upTo
  | .unread g => return g.map Cell.tolerance

end FlightAttitude
