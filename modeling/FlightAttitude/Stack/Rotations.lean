/-
# FlightAttitude.Stack.Rotations — matrices, turned vectors, and axes with angles, on stacks

A stack of quaternions of shape `4 :: s` has matrices of shape `s ++ [3, 3]`: the axes of the stack
stand last in one and first in the other. The conversions do not go through a stack member by member.
Numbers are put under two more axes, products are made along several axes at once, and cells are picked
by number, for the whole array.

Turning vectors takes either one quaternion and an array of vectors, or a column of quaternions and a
column of vectors; stacks along more than one axis are paired with arrays of vectors by the rule for
products of matrices, in which the leading axes agree and the last two are multiplied.
-/
import FlightAttitude.Rotation.AxisAngle
import FlightAttitude.Rotation.Matrix
import FlightAttitude.Stack.Quaternions

namespace FlightAttitude.Stack

variable {α : Type}

/-! ## §1 Matrices of quaternions -/

section Matrices

variable [NatCast α] [Zero α] [One α] [Add α] [Sub α] [Mul α] [Neg α]

/-- **`toMatrices q`** — the matrices of the quaternions, `(w² - v·v) I + 2 v vᵀ + 2 w [v ×]` for all
columns at once. Scalars are put under two axes of length one, so that each of them meets all entries of
its matrix. -/
def toMatrices (q : Operand α) : Except Fault (Grid α) := do
  let ⟨4 :: s, q⟩ ← q | .error .firstAxisNotFour
  let scalar ← Grid.overOnes ⟨s, Tensor.row q 3⟩
  let vector : Tensor α (3 :: s) := Tensor.firstRows (by decide) q
  let outer : Grid α := ⟨s ++ [3, 3], Tensor.outer vector vector⟩
  let squared := scalar.map fun w => w * w
  let lengths ← (Grid.sumFirst (← Grid.mul ⟨3 :: s, vector⟩ ⟨3 :: s, vector⟩)).overOnes
  let straight ← (← squared.sub lengths).mul ⟨[3, 3], Tensor.identity⟩
  let crossed ← (scalar.map (two * ·)).mul (← skews (.ok ⟨3 :: s, vector⟩))
  (← straight.add (outer.map (two * ·))).add crossed

/-- The matrices of a stack of quaternions, each as one cell. -/
def matricesOf (q : Operand α) : Except Fault (Grid (Mat3 α)) := do
  match (← toMatrices q).lastTwo? with
  | some ⟨s, 3, 3, m⟩ =>
    return ⟨s, .ofFn fun p => .ofEntries fun i j => m.get (p.append (i, j, ()))⟩
  | _ => .error .shapesDisagree

end Matrices

/-! ## §2 Quaternions of matrices -/

section Quaternions

/-- One matrix as a stack of one, or the matrices of a stack along one axis. -/
def matrixStack : Grid α → Except Fault ((n : Nat) × Tensor α [n, 3, 3])
  | ⟨[3, 3], t⟩ => .ok ⟨1, #v[t]⟩
  | ⟨[n, 3, 3], t⟩ => .ok ⟨n, t⟩
  | _ => .error .noMatrices

/-- The entries in row `i` and column `j` of all matrices. -/
def entryOf {n : Nat} (t : Tensor α [n, 3, 3]) (i j : Fin 3) : Tensor α [n] :=
  Tensor.entries (s := [n]) t i j

/-- The traces of all matrices. -/
def traceOf [Zero α] [Add α] {n : Nat} (t : Tensor α [n, 3, 3]) : Tensor α [n] :=
  Tensor.traces (s := [n]) t

/-- For each matrix the number of the component that goes with the greatest of the diagonal entries and
the trace. -/
def choiceOf [Zero α] [Add α] [LE α] [DecidableLE α] {n : Nat} (t : Tensor α [n, 3, 3]) :
    Tensor (Fin 4) [n] :=
  Tensor.greatestRow (s := [n]) #v[entryOf t 0 0, entryOf t 1 1, entryOf t 2 2, traceOf t]

variable [NatCast α] [Zero α] [One α] [Add α] [Sub α] [Mul α] [Div α] [LT α] [DecidableLT α]
  [SquareRoot α]

/-- The sizes of the four components of all matrices, as the diagonals tell them. -/
def sizesOf {n : Nat} (t : Tensor α [n, 3, 3]) : Tensor α [4, n] :=
  let ofDiagonal (i : Fin 3) : Tensor α [n] :=
    Tensor.zipWith (fun d trace => 1 + two * d - trace) (entryOf t i i) (traceOf t)
  let squares : Tensor α [4, n] :=
    #v[ofDiagonal 0, ofDiagonal 1, ofDiagonal 2, (traceOf t).map (1 + ·)]
  (squares.map atLeastZero).map fun x => 1 / two * sqrt x

/-- All four cases for all matrices: the quaternions computed from the component of each number. -/
def casesOf {n : Nat} (t : Tensor α [n, 3, 3]) : Tensor α [4, 4, n] :=
  let size (c : Fin 4) : Tensor α [n] := Tensor.row (sizesOf t) c
  let share (c : Fin 4) : Tensor α [n] :=
    Tensor.row ((sizesOf t).map fun x => 1 / Nat.cast 4 / x : Tensor α [4, n]) c
  let sum (i j : Fin 3) (c : Fin 4) : Tensor α [n] :=
    Tensor.zipWith (· * ·) (Tensor.zipWith (· + ·) (entryOf t i j) (entryOf t j i)) (share c)
  let difference (i j : Fin 3) (c : Fin 4) : Tensor α [n] :=
    Tensor.zipWith (· * ·) (Tensor.zipWith (· - ·) (entryOf t i j) (entryOf t j i)) (share c)
  #v[#v[size 0, sum 0 1 0, sum 0 2 0, difference 2 1 0],
    #v[sum 0 1 1, size 1, sum 1 2 1, difference 0 2 1],
    #v[sum 0 2 2, sum 1 2 2, size 2, difference 1 0 2],
    #v[difference 2 1 3, difference 0 2 3, difference 1 0 3, size 3]]

variable [Neg α] [LE α] [DecidableLE α]

/-- The quaternions of a stack of matrices as columns. Each column is picked from the case of its matrix,
and turned to a scalar part that is not negative. -/
def quaternionStack {n : Nat} (t : Tensor α [n, 3, 3]) : Except Fault (Grid α) :=
  let picked : Tensor α [4, n] := ((casesOf t).pick (choiceOf t) (.numbers n)).transpose
  let signs : Tensor α [n] := (Tensor.row picked 3).map fun w => if w < 0 then -1 else 1
  Grid.mul ⟨[4, n], picked⟩ ⟨[n], signs⟩

/-- **`ofMatrices m`** — the quaternion of one matrix, or of each matrix in a stack along one axis. -/
def ofMatrices (m : Operand α) : Except Fault (Grid α) := do
  let m ← m
  let ⟨_, t⟩ ← matrixStack m
  let q ← quaternionStack t
  if m.shape.length = 2 then q.columnAt 0 else return q

end Quaternions

/-! ## §3 Turned vectors -/

section Turned

variable [Zero α] [Add α] [Mul α]

/-- The entry of a product in row `i`: the row times a column of which `v j` is the component. -/
def rowTimes (m : Mat3 α) (i : Fin 3) (v : Fin 3 → α) : α :=
  (m.row i).dot (.ofComponents v)

/-- A stack of matrices along one axis, each times the vector in its column. A vector axis or a column
axis of length one is stretched. -/
def turnColumns {n : Nat} (m : Tensor (Mat3 α) [n]) : Grid α → Except Fault (Grid α)
  | ⟨[k, c], v⟩ => do
    -- the vector axis has length three, or one and is stretched
    let some component := Shape.reading? [k] [3] | .error .shapesDisagree
    let some s := Shape.join [n] [c] | .error .shapesDisagree
    let some matrixOf := Shape.reading? [n] s | .error .shapesDisagree
    let some columnOf := Shape.reading? [c] s | .error .shapesDisagree
    return ⟨3 :: s, .ofFn fun (i, p) =>
      rowTimes (m.get (matrixOf p)) i fun j =>
        Tensor.get (s := [k, c]) v ((component (j, ())).1, columnOf p)⟩
  | _ => .error .shapesDisagree

/-- Matrices times vectors by the rule for products of matrices: one vector goes with every matrix;
otherwise the last two axes of the vectors are multiplied and the axes before them agree. -/
def turnProducts (m : Grid (Mat3 α)) (v : Grid α) : Except Fault (Grid α) :=
  match v with
  | ⟨[], _⟩ => .error .shapesDisagree
  | ⟨[3], v⟩ =>
    .ok ⟨m.shape ++ [3], .ofFn fun p =>
      let (k, i, _) := Position.split m.shape p
      rowTimes (m.cells.get k) i fun j => Tensor.get (s := [3]) v (j, ())⟩
  | ⟨s, v⟩ =>
    match Shape.splitLastTwo? s with
    | some ⟨(lead, 3, c), h⟩ =>
      match Shape.join m.shape lead with
      | none => .error .shapesDisagree
      | some t =>
        match Shape.reading? m.shape t, Shape.reading? lead t with
        | some matrixOf, some leadOf =>
          .ok ⟨t ++ [3, c], .ofFn fun p =>
            let (k, i, r) := Position.split t p
            rowTimes (m.cells.get (matrixOf k)) i fun j =>
              Tensor.get (h ▸ v : Tensor α (lead ++ [3, c])) (Position.append (leadOf k) (j, r))⟩
        | _, _ => .error .shapesDisagree
    | _ => .error .shapesDisagree

/-- **`rotate q v`** — vectors turned by quaternions. -/
def rotate [NatCast α] [One α] [Sub α] [Neg α] (q v : Operand α) : Except Fault (Grid α) := do
  let m ← matricesOf q
  let v ← v
  match m with
  | ⟨[_], m⟩ => turnColumns m v
  | m => turnProducts m v

end Turned

/-! ## §4 Axes with angles -/

/-- **`ofAxisAngles axis angle`** — the rotation about each column by the angle beside it, in degrees.
There have to be as many angles as columns. -/
def ofAxisAngles [NatCast α] [Zero α] [Add α] [Mul α] [Div α] [SquareRoot α] [Trigonometry α]
    (axis angle : Operand α) : Except Fault (Grid α) := do
  let axis ← units axis
  let half := (← angle).map Angle.half
  let vectorPart ← axis.mul (half.map sin)
  let scalarPart ← (half.map cos).reshape (1 :: axis.shape.tail)
  vectorPart.appendFirst scalarPart

end FlightAttitude.Stack
