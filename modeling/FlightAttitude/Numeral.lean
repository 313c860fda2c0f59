/-
# FlightAttitude.Numeral — numbers as they are handed in

An argument is a number, or lists of numbers nested to any depth, or an array that an earlier call
returned. Nested lists are an array when the members of every list have one shape
(`Numeral.cells`); only then are the numbers looked at.

A number may be a float, a whole number of any size, a truth value, or missing. In an array of floats
a missing number is the undefined one (`Numeral.read`). A whole number is rounded to the nearest
float, and is a fault where that would be infinite.

Some numbers are not made an array of floats first, but used as they stand beside one
(`Numeral.numbers`): one missing or very large member of a list leaves all of the list unread until
each of its numbers is used.
-/
import FlightAttitude.Grid

namespace FlightAttitude

/-- **`Cell`** — one number as it is handed in. -/
inductive Cell where
  | number (value : Float)
  | integer (value : Int)
  | flag (value : Bool)
  | missing
  deriving Inhabited

namespace Cell

/-- **`ofInteger i`** — the float nearest to a whole number, where it is finite. -/
def ofInteger (i : Int) : Except Fault Float :=
  let x := Float.ofInt i
  if x.isInf then .error .beyondFloats else .ok x

/-- **`toNumber c`** — the float of a number; a missing one is a fault. -/
def toNumber : Cell → Except Fault Float
  | number x => .ok x
  | integer i => ofInteger i
  | flag b => .ok (if b then 1 else 0)
  | missing => .error .notANumber

/-- **`toFloat c`** — the float of a number; a missing one is undefined. -/
def toFloat : Cell → Except Fault Float
  | missing => .ok Binary64.undefined
  | c => c.toNumber

/-- **`isShort c`** — whether a number is there and, if it is whole, fits into 64 bits with or without a
sign. -/
def isShort : Cell → Bool
  | integer i => -9223372036854775808 ≤ i && i < 18446744073709551616
  | missing => false
  | _ => true

end Cell

/-- **`Numeral`** — a number, nested lists of numbers, or an array. -/
inductive Numeral where
  | cell (value : Cell)
  | list (members : List Numeral)
  | array (value : Grid Float)
  deriving Inhabited

namespace Numeral

mutual

/-- The array of nested lists, whatever the number of axes. -/
def cellsOf : Numeral → Except Fault (Grid Cell)
  | cell c => .ok (.scalar c)
  | array g => .ok (g.map Cell.number)
  | list members =>
    match cellsOfMembers members with
    | .error e => .error e
    | .ok gs =>
      match Grid.stack gs with
      | .ok g => .ok g
      | .error _ => .error .ragged

/-- The arrays of the members of a list. -/
def cellsOfMembers : List Numeral → Except Fault (List (Grid Cell))
  | [] => .ok []
  | m :: ms =>
    match cellsOf m, cellsOfMembers ms with
    | .ok g, .ok gs => .ok (g :: gs)
    | .error e, _ => .error e
    | _, .error e => .error e

end

/-- **`cells n`** — the array that an argument is, its numbers not yet looked at. -/
def cells (n : Numeral) : Except Fault (Grid Cell) :=
  match n.cellsOf with
  | .ok g => if maxAxes < g.shape.length then .error .ragged else .ok g
  | .error e => .error e

/-- **`read n`** — the array of floats; missing numbers are undefined. -/
def read (n : Numeral) : Except Fault (Grid Float) := do
  (← n.cells).traverse Cell.toFloat

/-! ## §1 Numbers that are used as they stand -/

/-- **`Numbers`** — an array of numbers beside an array of floats. -/
inductive Numbers where
  | floats (g : Grid Float)
  /-- Numbers to be looked at one by one, when each of them is used. -/
  | unread (g : Grid Cell)

/-- **`numbers n`** — a number by itself is read unless it is missing; an array is read where all its
numbers are short. -/
def numbers : Numeral → Except Fault Numbers
  | cell .missing => .ok (.unread (.scalar .missing))
  | cell c => c.toNumber.map fun x => .floats (.scalar x)
  | n => do
    let g ← n.cells
    if g.toList.all Cell.isShort then return .floats (← g.traverse Cell.toNumber)
    else return .unread g

/-! ## §2 Single vectors and quaternions -/

/-- **`toTuple n`** — the components of one vector or one quaternion. The shape is tested before the
numbers are looked at. -/
def toTuple (n : Numeral) : Except Fault (List Float) := do
  let g ← n.cells
  if g.shape = [3] || g.shape = [4] then return (← g.traverse Cell.toNumber).toList
  else .error (.noTuple g.shape)

/-- **`toVector n`** — one vector. -/
def toVector (n : Numeral) : Except Fault (Grid Float) := do
  let g ← n.read
  if g.shape = [3] then return g else .error (.noVector g.shape)

/-- **`toQuaternion n`** — one quaternion. -/
def toQuaternion (n : Numeral) : Except Fault (Grid Float) := do
  let g ← n.read
  if g.shape = [4] then return g else .error (.noQuaternion g.shape)

/-! ## §3 Decimal places -/

/-- **`places i`** — a whole number as a number of decimal places: it has to fit into 32 bits. -/
def places (i : Int) : Except Fault Int :=
  if -2147483648 ≤ i && i ≤ 2147483647 then .ok i else .error .placesTooLarge

/-- **`toPlaces n`** — a number of decimal places: a whole number or a truth value. -/
def toPlaces : Numeral → Except Fault Int
  | cell (.integer i) => places i
  | cell (.flag b) => .ok (if b then 1 else 0)
  | _ => .error .placesNotWhole

/-! ## §4 Settings as numbers -/

mutual

/-- **`ofDatum d`** — a value of any kind as a number or nested lists of them. What is no number counts
as missing. -/
def ofDatum : Datum → Numeral
  | .flag b => cell (.flag b)
  | .integer i => cell (.integer i)
  | .number x => cell (.number x)
  | .list members => list (ofData members)
  | _ => cell .missing

/-- The members of a list as numbers. -/
def ofData : List Datum → List Numeral
  | [] => []
  | d :: ds => ofDatum d :: ofData ds

end

end Numeral

end FlightAttitude
