/-
# FlightAttitude.AxisOrder — the order in which a rotation is taken apart
-/
import FlightAttitude.Text.LetterCase

namespace FlightAttitude

/-- **`AxisOrder`** — the axes of the three turns, the first turn first. -/
inductive AxisOrder where
  /-- About y, then about z, then about x. -/
  | yzx
  deriving DecidableEq, Repr

namespace AxisOrder

/-- **`all`** — the supported orders. -/
def all : List AxisOrder := [yzx]

/-- **`name o`** — the name of the order. -/
def name : AxisOrder → String
  | yzx => "YZX"

/-- **`letters o`** — the axes as small letters. -/
def letters : AxisOrder → String
  | yzx => "yzx"

/-- **`ofText? s`** — the order whose letters `s` has when it is put in small letters. -/
def ofText? (s : String) : Option AxisOrder :=
  all.find? fun o => o.letters = Text.toSmall s

end AxisOrder

end FlightAttitude
