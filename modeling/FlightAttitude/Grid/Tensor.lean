/-
# FlightAttitude.Grid.Tensor — arrays of a fixed shape

An array of shape `n :: s` is `n` arrays of shape `s`; one of no axes is a single cell. Every
operation is described through two functions: `Tensor.get` reads the cell at a position and
`Tensor.ofFn` builds an array from its cells. They are inverse to each other (`Tensor.get_ofFn`,
`Tensor.ofFn_get`), and arrays with the same cells are equal (`Tensor.ext_get`).
-/
import FlightAttitude.Grid.Shape

namespace FlightAttitude

universe u v w

/-- **`Tensor α s`** — arrays of shape `s` with cells in `α`. -/
@[reducible] def Tensor (α : Type u) : Shape → Type u
  | [] => α
  | n :: s => Vector (Tensor α s) n

namespace Tensor

variable {α : Type u} {β : Type v} {γ : Type w}

/-- **`get a p`** — the cell at position `p`. -/
def get : {s : Shape} → Tensor α s → Position s → α
  | [], a, _ => a
  | _ :: _, a, (i, p) => get a[i] p

/-- **`ofFn f`** — the array whose cell at `p` is `f p`. -/
def ofFn : {s : Shape} → (Position s → α) → Tensor α s
  | [], f => f ()
  | _ :: _, f => Vector.ofFn fun i => ofFn fun p => f (i, p)

@[simp] theorem get_ofFn : {s : Shape} → (f : Position s → α) → (p : Position s) →
    (ofFn f).get p = f p
  | [], _, _ => rfl
  | _ :: _, f, (i, p) => by simp [get, ofFn, get_ofFn]

theorem ext_get : {s : Shape} → {a b : Tensor α s} → (∀ p, a.get p = b.get p) → a = b
  | [], _, _, h => h ()
  | _ :: _, a, b, h => by
    apply Vector.ext
    intro i hi
    exact ext_get fun p => h (⟨i, hi⟩, p)

theorem ofFn_get {s : Shape} (a : Tensor α s) : ofFn a.get = a :=
  ext_get fun p => get_ofFn a.get p

/-- **`map f a`** — the same function on each cell. -/
def map {s : Shape} (f : α → β) (a : Tensor α s) : Tensor β s :=
  ofFn fun p => f (a.get p)

@[simp] theorem get_map {s : Shape} (f : α → β) (a : Tensor α s) (p : Position s) :
    (a.map f).get p = f (a.get p) :=
  get_ofFn _ p

/-- On rows, the same function on each cell is the same function on each row. -/
theorem map_cons {n : Nat} {s : Shape} (f : α → β) (a : Tensor α (n :: s)) :
    (map f a : Tensor β (n :: s)) = Vector.map (map f) a := by
  apply Vector.ext
  intro i hi
  simp [map, ofFn, get]

/-! ## §1 Cells in order -/

/-- **`traverse f a`** — the array of the results of `f`, or the first failure. -/
def traverse {ε : Type w} (f : α → Except ε β) : {s : Shape} → Tensor α s → Except ε (Tensor β s)
  | [], a => f a
  | _ :: _, a => Vector.mapM (fun row => traverse f row) a

/-- **`toList a`** — the cells, the last axis running fastest. -/
def toList : {s : Shape} → Tensor α s → List α
  | [], a => [a]
  | _ :: _, a => (Vector.toList a).flatMap toList

/-- A test of the cells in order is a test of the cell at each position. -/
theorem all_toList_iff {s : Shape} (f : α → Bool) (a : Tensor α s) :
    a.toList.all f = true ↔ ∀ p, f (a.get p) = true := by
  induction s with
  | nil => simp [toList, get]
  | cons n s ih =>
    simp only [toList, List.all_flatMap, Vector.all_toList, Vector.all_eq_true, ih]
    constructor
    · intro h p
      exact h p.1 p.1.2 p.2
    · intro h i hi p
      exact h (⟨i, hi⟩, p)

section Traverse

variable {ε : Type w}

theorem traverse_map {δ : Type v} {s : Shape} (f : α → β) (g : β → Except ε δ) (a : Tensor α s) :
    (a.map f).traverse g = a.traverse fun x => g (f x) := by
  induction s with
  | nil => rfl
  | cons n s ih =>
    rw [map_cons, traverse, traverse, Vector.mapM_map]
    congr 1
    exact funext fun row => ih row

/-- Where nothing fails, the results are those of a plain function. -/
theorem traverse_ok {s : Shape} (f : α → β) (a : Tensor α s) :
    (a.traverse fun x => (.ok (f x) : Except ε β)) = .ok (a.map f) := by
  induction s with
  | nil => rfl
  | cons n s ih =>
    have rows : (fun row : Tensor α s => row.traverse fun x => (.ok (f x) : Except ε β)) =
        fun row => pure (row.map f) := funext ih
    rw [traverse, rows, Vector.mapM_pure, map_cons]
    rfl

end Traverse

/-- **`ofList? s l`** — the array of shape `s` with the cells `l`, if there are as many as it has. -/
def ofList? : (s : Shape) → List α → Option (Tensor α s)
  | [], [a] => some a
  | [], _ => none
  | n :: s, l =>
    let size := s.foldr (· * ·) 1
    if l.length = n * size then
      (Vector.ofFn fun i : Fin n => (l.drop (i * size)).take size).mapM (ofList? s)
    else none

end Tensor

end FlightAttitude
