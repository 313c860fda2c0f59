/-
# FlightAttitude.Stack.Quaternions — quaternion functions on stacks

The functions of `FlightAttitude.Quaternion` on arrays that hold many quaternions, one in each column.
Each of them refuses an array whose first axis is not of length four; those of one stack then act on
every column by itself (`Grid.map`).

The product of two stacks multiplies scalar parts into vector parts as arrays, so stacks of different
shapes meet by the shape rule with the last axes aligned. For stacks of one shape it is the product of
the columns.
-/
import FlightAttitude.Stack.Cross
import FlightAttitude.Stack.Vectors

namespace FlightAttitude.Stack

variable {α : Type}

/-! ## §1 Length -/

/-- **`quaternionNorms q`** — the length of each quaternion. -/
def quaternionNorms [Zero α] [Add α] [Mul α] [SquareRoot α] (q : Operand α) : Except Fault (Grid α) := do
  return (← (← q).quaternions).map Quaternion.norm

/-- **`normalize q`** — each quaternion at length one. Where some scale is not finite, a notice says so. -/
def normalize [Zero α] [One α] [Add α] [Mul α] [Div α] [SquareRoot α] [Finiteness α]
    (q : Operand α) : Report (Grid α) := do
  let q ← q
  let qs ← q.quaternions
  Report.sayIf (!qs.toList.all fun q => isFinite q.unitScale) .zeroLength
  return .ofQuaternions (qs.map Quaternion.normalize)

/-- **`Tolerance α`** — a test of how far a length is off: whether that is accepted, or why nobody can
tell. -/
abbrev Tolerance (α : Type) := α → Except Fault Bool

/-- **`upTo t`** — accepts all lengths that are off by at most `t`. -/
def upTo [LE α] [DecidableLE α] (t : α) : Tolerance α :=
  fun x => .ok (decide (x ≤ t))

/-- **`areUnit q tolerance`** — whether each quaternion is of length one within the tolerance that stands
beside it. -/
def areUnit [Zero α] [One α] [Add α] [Sub α] [Mul α] [Neg α] [LT α] [DecidableLT α]
    [SquareRoot α] (q : Operand α) (tolerance : Operand (Tolerance α)) :
    Except Fault (Grid Bool) := do
  let off := (← (← q).quaternions).map Quaternion.offUnit
  let verdicts ← Grid.zipWith (fun x (accepts : Tolerance α) => accepts x) off (← tolerance)
  verdicts.traverse id

/-- **`defaultTolerance`** — a millionth. -/
def defaultTolerance [NatCast α] [One α] [Div α] : α :=
  1 / Nat.cast 1000000

/-! ## §2 Inverse and product -/

/-- **`inverses q`** — each vector part negated. -/
def inverses [Neg α] (q : Operand α) : Except Fault (Grid α) := do
  return .ofQuaternions ((← (← q).quaternions).map Quaternion.inverse)

/-- **`multiply p q`** — the Hamilton product. -/
def multiply [Zero α] [Add α] [Sub α] [Mul α] (p q : Operand α) : Except Fault (Grid α) := do
  let p ← p
  let q ← q
  let p ← p.quaternions
  let q ← q.quaternions
  let pScalar := p.map Quaternion.w
  let qScalar := q.map Quaternion.w
  let pVector := Grid.ofVectors (p.map Quaternion.vector)
  let qVector := Grid.ofVectors (q.map Quaternion.vector)
  let scaled ← Grid.add (← pScalar.mul qVector) (← qScalar.mul pVector)
  let crossed ← crossVectors (p.map Quaternion.vector) (q.map Quaternion.vector)
  let vectorPart ← scaled.add (.ofVectors crossed)
  let scalarPart ← Grid.sub (← pScalar.mul qScalar) (← dot pVector qVector)
  vectorPart.appendFirst scalarPart.underOne

end FlightAttitude.Stack
