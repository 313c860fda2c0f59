/-
# FlightAttitude.Proofs.Stack.Single — a single operand is a stack of no axes

The functions that are handed arrays work on whole stacks, with shape rules, sums along the first axis
and matrices written back into arrays. On a single vector, quaternion or matrix they are the functions
of `Vec3`, `Quaternion` and `Mat3`, over every number type and with no law about its operations; so
what is proved of those holds of what is run. Pairs of directions follow in
`FlightAttitude.Proofs.Stack.Directions`.
-/
import FlightAttitude.Stack.Attitudes

namespace FlightAttitude

variable {α : Type}

/-! ## §1 Single operands as arrays -/

/-- **`toGrid v`** — one vector as an array. -/
def Vec3.toGrid (v : Vec3 α) : Grid α := .ofVectors (.scalar v)

/-- **`toGrid q`** — one quaternion as an array. -/
def Quaternion.toGrid (q : Quaternion α) : Grid α := .ofQuaternions (.scalar q)

/-- **`toGrid m`** — one matrix as an array. -/
def Mat3.toGrid (m : Mat3 α) : Grid α := .ofMatrices (.scalar m)

namespace Stack

/-! ## §2 Quaternions and matrices -/

theorem multiply_toGrid [Zero α] [Add α] [Sub α] [Mul α] (p q : Quaternion α) :
    multiply p.toGrid q.toGrid = .ok (p * q).toGrid := rfl

theorem inverses_toGrid [Neg α] (q : Quaternion α) : inverses q.toGrid = .ok q.inverse.toGrid := rfl

theorem ofList?_singleton (x : α) : Tensor.ofList? [1] [x] = some #v[x] := by
  change Vector.mapM (Tensor.ofList? []) #v[[x]] = some #v[x]
  apply Vector.map_toArray_inj.mp
  rw [Vector.toArray_mapM]
  simp [Tensor.ofList?]

theorem reshape_scalar (x : α) : (Grid.scalar x).reshape [1] = .ok ⟨[1], #v[x]⟩ := by
  have h : Tensor.ofList? [1] (Grid.scalar x).toList = some #v[x] := ofList?_singleton x
  rw [Grid.reshape, h]

theorem ofAxisAngles_toGrid [NatCast α] [Zero α] [Add α] [Mul α] [Div α] [SquareRoot α]
    [Trigonometry α] (axis : Vec3 α) (angle : α) :
    ofAxisAngles axis.toGrid (Grid.scalar angle) =
      .ok (Quaternion.ofAxisAngle axis angle).toGrid := by
  -- the cosine is put under an axis of its own before it joins the vector part
  have hcos : (((Grid.scalar angle).map Angle.half).map cos).reshape [1] =
      .ok ⟨[1], #v[cos (Angle.half angle)]⟩ := reshape_scalar _
  change Except.bind ((((Grid.scalar angle).map Angle.half).map cos).reshape [1]) _ = _
  rw [hcos]
  rfl

end Stack

end FlightAttitude
