/-
# FlightAttitude.Stack.Facing — facing orientations of stacks

The directions are made orthonormal pairs as in `Stack.orthoNormalize`. The robust way makes matrices
of them, so its three basis directions must have one shape and lie along one axis at most; the closed
form works on their rows, takes any stacks that agree, and says so when some quaternion is not finite.
-/
import FlightAttitude.Facing
import FlightAttitude.Stack.Rotations

namespace FlightAttitude.Stack

variable {α : Type}

section Facing

variable [NatCast α] [Zero α] [One α] [Add α] [Sub α] [Mul α] [Div α] [Neg α]
  [LT α] [DecidableLT α] [LE α] [DecidableLE α] [SquareRoot α]

/-- The matrices with the columns `right`, `up` and `forward` as quaternions. The directions are laid side
by side on the second axis; where they are stacked, the axis of the stack is moved to the front. -/
def facingRobust (right up forward : Grid α) : Except Fault (Grid α) := do
  match ← Grid.stackSecond [right, up, forward] with
  | ⟨[_, _, _], basis⟩ => ofMatrices (.ok ⟨_, Tensor.lastFirst basis⟩)
  | basis => ofMatrices (.ok basis)

/-- The closed form of the same quaternions, component by component for all columns. -/
def facingClosed (right up forward : Grid α) : Except Fault (Grid α) := do
  let radicand ← (← ((← right.row 0).map (1 + ·)).add (← up.row 1)).add (← forward.row 2)
  let w := radicand.map fun x => sqrt x * (1 / two)
  let share := w.map fun w => 1 / Nat.cast 4 / w
  let x ← (← (← up.row 2).sub (← forward.row 1)).mul share
  let y ← (← (← forward.row 0).sub (← right.row 2)).mul share
  let z ← (← (← right.row 1).sub (← up.row 0)).mul share
  Grid.stack [x, y, z, w]

/-- **`facing robust forward up`** — the orientations that face `forward`. -/
def facing [Finiteness α] (robust : Except Fault Bool) (forward up : Operand α) :
    Report (Grid α) := do
  let (forward, up) ← orthoNormalize forward up
  let right ← cross up forward
  if ← robust then facingRobust right up forward
  else
    let q ← facingClosed right up forward
    Report.sayIf (!q.toList.all isFinite) .undefinedFacing
    return q

end Facing

end FlightAttitude.Stack
