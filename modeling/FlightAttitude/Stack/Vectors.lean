/-
# FlightAttitude.Stack.Vectors — vector functions on stacks

The functions of `FlightAttitude.Vec3` on arrays that hold many vectors, one in each column. Functions
of each cell take any shape. Sums of products run along the first axis, whatever its length.

Two stacks meet by the shape rule of `FlightAttitude.Grid.Shape`, with their last axes aligned.
-/
import FlightAttitude.Angle
import FlightAttitude.Grid.Axes
import FlightAttitude.Grid.Components
import FlightAttitude.Report

namespace FlightAttitude.Stack

variable {α : Type}

/-! ## §1 Cell by cell -/

/-- **`signs v`** — the sign of each cell. -/
def signs [LT α] [DecidableLT α] [LE α] [DecidableLE α] [Zero α] [One α] [Neg α] (v : Operand α) :
    Except Fault (Grid α) := do
  return (← v).map signum

/-- **`reciprocals v`** — one over each cell. -/
def reciprocals [One α] [Div α] (v : Operand α) : Except Fault (Grid α) := do
  return (← v).map fun x => 1 / x

/-- **`powers v e`** — each cell to the exponent that stands beside it. -/
def powers [RealPower α] (v e : Operand α) : Except Fault (Grid α) := do
  let v ← v
  let e ← e
  if Shape.isShared v.shape e.shape then Grid.zipWith RealPower.powShared v e
  else Grid.zipWith RealPower.pow v e

/-- **`wrapSigned v`** — each cell brought into `(-180, 180]`. -/
def wrapSigned [NatCast α] [Add α] [Sub α] [Mul α] [Div α] [IntegerParts α] (v : Operand α) :
    Except Fault (Grid α) := do
  return (← v).map Angle.wrapSigned

/-- **`wrapUnsigned v`** — each cell brought into `[0, 360)`. -/
def wrapUnsigned [NatCast α] [Zero α] [Add α] [LT α] [DecidableLT α] [LE α] [DecidableLE α]
    [IntegerParts α] (v : Operand α) : Except Fault (Grid α) := do
  return (← v).map Angle.wrapUnsigned

/-- **`roundNarrow v places`** — cells in the coarser format, rounded to decimal places. The rounding
itself is done in the finer format. -/
def roundNarrow [Mul α] [Div α] [IntegerParts α] [PowersOfTen α] [Narrowing α] (v : Operand α)
    (places : Except Fault Int) : Except Fault (Grid α) := do
  let v ← v
  let places ← places
  return v.map fun x => Narrowing.narrow (Angle.roundPlaces places (Narrowing.narrow x))

/-! ## §2 Products and lengths -/

/-- **`dot a b`** — the inner product of the columns. -/
def dot [Zero α] [Add α] [Mul α] (a b : Operand α) : Except Fault (Grid α) := do
  return (← Grid.mul (← a) (← b)).sumFirst

/-- **`norms v`** — the length of the columns. -/
def norms [Zero α] [Add α] [Mul α] [SquareRoot α] (v : Operand α) : Except Fault (Grid α) := do
  let v ← v
  match v.shape with
  | [] => .error .noFirstAxis
  | _ :: _ => return (v.map fun x => x * x).sumFirst.map sqrt

/-- **`units v`** — the columns at length one. -/
def units [Zero α] [Add α] [Mul α] [Div α] [SquareRoot α] (v : Operand α) : Except Fault (Grid α) := do
  let v ← v
  v.div (← norms v)

/-- **`skews v`** — the matrices of the cross products with the columns on the left. They are written
entry by entry, each entry for all columns, and the two axes of the entries are then moved to the end. -/
def skews [Zero α] [Neg α] (v : Operand α) : Except Fault (Grid α) := do
  match ← v with
  | ⟨[], _⟩ => .error .noLength
  | ⟨3 :: s, v⟩ =>
    if maxAxes < s.length + 2 then .error .ragged
    else
      let zeros : Tensor α s := .ofFn fun _ => 0
      let part (i : Fin 3) : Tensor α s := Tensor.row v i
      let minus (i : Fin 3) : Tensor α s := (part i).map (- ·)
      let entries : Tensor α (3 :: 3 :: s) := #v[
        #v[zeros, minus 2, part 1],
        #v[part 2, zeros, minus 0],
        #v[minus 1, part 0, zeros]]
      return ⟨s ++ [3, 3], entries.moveFirstTwo⟩
  | _ => .error .firstAxisNotThree

/-! ## §3 Orthonormal pairs -/

/-- **`orthoNormalize normal tangent`** — for each column the pair of `Vec3.orthoNormalize`. Where some
tangent comes out not finite, a notice says so. -/
def orthoNormalize [Zero α] [Add α] [Sub α] [Mul α] [Div α] [SquareRoot α] [Finiteness α]
    (normal tangent : Operand α) : Report (Grid α × Grid α) := do
  let n ← units normal
  let t ← units tangent
  let along ← n.mul (← dot t n)
  let t ← units (t.sub along)
  Report.sayIf (!t.toList.all isFinite) .parallelDirections
  return (n, t)

end FlightAttitude.Stack
