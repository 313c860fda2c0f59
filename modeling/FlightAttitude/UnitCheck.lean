/-
# FlightAttitude.UnitCheck — what to do about a quaternion that is not of length one
-/
import FlightAttitude.Text.LetterCase

namespace FlightAttitude

/-- **`UnitCheck`** — the four ways of dealing with a quaternion that is not of length one. -/
inductive UnitCheck where
  /-- Take it as it is; the angles are then wrong. -/
  | ignore
  /-- Warn, then bring it to length one. -/
  | warn
  /-- Bring every quaternion to length one. -/
  | normalize
  /-- Refuse it. -/
  | raise
  deriving DecidableEq, Repr

namespace UnitCheck

/-- **`all`** — the ways, in order. -/
def all : List UnitCheck := [ignore, warn, normalize, raise]

/-- **`name c`** — the name a way is chosen by. -/
def name : UnitCheck → String
  | ignore => "IGNORE"
  | warn => "WARN"
  | normalize => "NORMALIZE"
  | raise => "RAISE"

/-- **`number c`** — the place in the list, from one. -/
def number : UnitCheck → Nat
  | ignore => 1
  | warn => 2
  | normalize => 3
  | raise => 4

/-- **`ofName? s`** — the way with exactly this name. -/
def ofName? (s : String) : Option UnitCheck :=
  all.find? fun c => c.name = s

/-- **`ofText? s`** — the way that `s` names when it is put in capital letters. -/
def ofText? (s : String) : Option UnitCheck :=
  ofName? (Text.toCapitals s)

theorem ofName?_name (c : UnitCheck) : ofName? c.name = some c := by
  cases c <;> decide

end UnitCheck

end FlightAttitude
