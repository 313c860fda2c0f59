/-
# FlightAttitude.Stack.Attitudes — Euler angles and flight attitudes of stacks

The angles are computed entry by entry, each entry for all matrices of the stack at once: where some of
them are at gimbal lock, both branches are computed for every one. The Euler angles come as an array of
shape `3 :: s`, in the order of turning; a flight attitude comes as three arrays of shape `s`.

The axis order is looked at before the quaternions are.
-/
import FlightAttitude.Attitude
import FlightAttitude.Stack.Rotations

namespace FlightAttitude

/-- **`AxisOrder.ofDatum d`** — the order that a value stands for: an order, or a text that names one in
capital or small letters. -/
def AxisOrder.ofDatum (d : Datum) : Except Fault AxisOrder :=
  match d with
  | .order o => .ok o
  | .text s =>
    match AxisOrder.ofText? s with
    | some o => .ok o
    | none => .error (.unsupportedOrder d)
  | _ => .error (.unsupportedOrder d)

namespace Stack

variable {α : Type}

section Angles

variable [NatCast α] [Zero α] [One α] [Add α] [Sub α] [Mul α] [Div α] [Neg α]
  [LT α] [DecidableLT α] [LE α] [DecidableLE α] [IntegerParts α] [Trigonometry α]

/-- The Euler angles of an array of matrices, in degrees. Both branches are computed for all matrices, and
each angle is then taken from the branch of its matrix. -/
def eulerOf (m : Grid α) : Except Fault (Grid α) := do
  let sine := (← m.entries 0 1).map fun x => clip (-1) 1 (-x)
  let locked := sine.map fun s => decide (1 - gimbalLockTolerance ≤ magnitude s)
  let aboutY ← locked.select (.scalar 0) (← Grid.zipWith arctan2 (← m.entries 0 2) (← m.entries 0 0))
  let aboutZ ← locked.select (sine.map fun s => if s < 0 then -(pi / two) else pi / two)
    (sine.map arcsin)
  let aboutX ← locked.select
    (← Grid.zipWith arctan2 ((← m.entries 1 2).map (- ·)) (← m.entries 2 2))
    (← Grid.zipWith arctan2 (← m.entries 2 1) (← m.entries 1 1))
  return ((← Grid.stack [aboutY, aboutZ, aboutX]).map Angle.toDegrees).map Angle.wrapUnsigned

/-- **`eulerAngles order q`** — the Euler angles of each quaternion, in degrees. -/
def eulerAngles (order : Datum) (q : Operand α) : Except Fault (Grid α) := do
  let .yzx ← AxisOrder.ofDatum order
  eulerOf (← toMatrices q)

end Angles

/-- **`attitudesOfEuler angles`** — stacked Euler angles read as flight attitudes. -/
def attitudesOfEuler [NatCast α] [Sub α] [Neg α] [LT α] [DecidableLT α] [LE α] [DecidableLE α]
    (angles : Operand α) : Except Fault (Attitude (Grid α)) := do
  match ← angles with
  | ⟨[], _⟩ => .error .notDivisible
  | ⟨3 :: s, angles⟩ =>
    let aboutY : Grid α := ⟨s, Tensor.row angles 0⟩
    let aboutZ : Grid α := ⟨s, Tensor.row angles 1⟩
    let aboutX : Grid α := ⟨s, Tensor.row angles 2⟩
    let pitch ← Grid.select (aboutZ.map fun e => decide (halfTurn < e))
      (aboutZ.map (fullTurn - ·)) (aboutZ.map (- ·))
    let roll ← Grid.select (aboutY.map fun e => decide (quarterTurn ≤ e))
      (aboutY.map (threeQuarterTurn - ·)) (aboutY.map (-quarterTurn - ·))
    return { pitch := pitch, heading := aboutX, roll := roll }
  | _ => .error .notThreeParts

/-- **`attitudes q`** — the flight attitude of each quaternion. -/
def attitudes [NatCast α] [Zero α] [One α] [Add α] [Sub α] [Mul α] [Div α] [Neg α]
    [LT α] [DecidableLT α] [LE α] [DecidableLE α] [IntegerParts α] [Trigonometry α]
    (q : Operand α) : Except Fault (Attitude (Grid α)) :=
  attitudesOfEuler (eulerAngles (.order .yzx) q)

/-- The three arrays of a stack of attitudes. -/
def attitudeParts (a : Grid (Attitude α)) : Attitude (Grid α) where
  pitch := a.map Attitude.pitch
  heading := a.map Attitude.heading
  roll := a.map Attitude.roll

end Stack

end FlightAttitude
