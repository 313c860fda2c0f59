/-
# FlightAttitude.Grid — arrays of any shape

A `Grid` is an array together with its shape. Two grids are combined cell by cell where their shapes
agree (`Grid.zipWith`); for grids of one shape that is position for position
(`Grid.zipWith_same`), a single cell meets every cell (`Grid.zipWith_scalar`), and a grid that has the
shape of one row meets every row (`Grid.zipWith_row`). The remaining operations work on the first axis,
which holds the components of stacked vectors.
-/
import FlightAttitude.Fault
import FlightAttitude.Grid.Tensor
import FlightAttitude.Summation

namespace FlightAttitude

universe u v w

/-- **`Grid α`** — an array with cells in `α`. -/
structure Grid (α : Type u) where
  shape : Shape
  cells : Tensor α shape

namespace Grid

variable {α : Type u} {β : Type v} {γ : Type w}

/-- **`scalar a`** — the array of no axes. -/
def scalar (a : α) : Grid α :=
  ⟨[], a⟩

theorem ofFn_nil (f : Position [] → α) : (⟨[], .ofFn f⟩ : Grid α) = scalar (f ()) := rfl

/-- **`map f g`** — the same function on each cell. -/
def map (f : α → β) (g : Grid α) : Grid β :=
  ⟨g.shape, g.cells.map f⟩

theorem map_scalar (f : α → β) (a : α) : (scalar a).map f = scalar (f a) := rfl

theorem map_ofFn (f : α → β) {s : Shape} (g : Position s → α) :
    map f ⟨s, .ofFn g⟩ = ⟨s, .ofFn fun p => f (g p)⟩ := by
  simp only [map, Tensor.map, Tensor.get_ofFn]

/-- A function that leaves each cell as it is leaves the array as it is. -/
theorem map_eq_self {f : α → α} {g : Grid α}
    (h : ∀ p, f (g.cells.get p) = g.cells.get p) : g.map f = g := by
  have cells : g.cells.map f = g.cells := Tensor.ext_get fun p => by rw [Tensor.get_map, h]
  rw [map, cells]

/-- **`traverse f g`** — the array of the results of `f`, or the first failure. -/
def traverse {ε : Type w} (f : α → Except ε β) (g : Grid α) : Except ε (Grid β) :=
  match g.cells.traverse f with
  | .ok t => .ok ⟨g.shape, t⟩
  | .error e => .error e

/-- **`toList g`** — the cells, the last axis running fastest. -/
def toList (g : Grid α) : List α :=
  g.cells.toList

/-! ## §1 Two grids, cell by cell -/

/-- **`zipWith? f a b`** — `f` on the cells that stand at one position once both shapes are read in
their common one. -/
def zipWith? (f : α → β → γ) (a : Grid α) (b : Grid β) : Option (Grid γ) :=
  (a.shape.join b.shape).bind fun s =>
    (a.shape.reading? s).bind fun p =>
      (b.shape.reading? s).map fun q =>
        ⟨s, .ofFn fun i => f (a.cells.get (p i)) (b.cells.get (q i))⟩

/-- **`zipWith f a b`** — the same, or the fault of shapes that do not agree. -/
def zipWith (f : α → β → γ) (a : Grid α) (b : Grid β) : Except Fault (Grid γ) :=
  match zipWith? f a b with
  | some c => .ok c
  | none => .error .shapesDisagree

/-- Cells are combined that stand at one position of the common shape. -/
theorem zipWith_of_join (f : α → β → γ) {s t r : Shape} {p : Position r → Position s}
    {q : Position r → Position t} (common : s.join t = some r) (hp : s.reading? r = some p)
    (hq : t.reading? r = some q) (a : Tensor α s) (b : Tensor β t) :
    zipWith f ⟨s, a⟩ ⟨t, b⟩ = .ok ⟨r, .ofFn fun i => f (a.get (p i)) (b.get (q i))⟩ := by
  simp [zipWith, zipWith?, common, hp, hq]

theorem zipWith_of_join_none (f : α → β → γ) {a : Grid α} {b : Grid β}
    (h : a.shape.join b.shape = none) : zipWith f a b = .error .shapesDisagree := by
  simp [zipWith, zipWith?, h]

/-- Grids of one shape are combined position for position. -/
theorem zipWith_same (f : α → β → γ) (s : Shape) (a : Tensor α s) (b : Tensor β s) :
    zipWith f ⟨s, a⟩ ⟨s, b⟩ = .ok ⟨s, .ofFn fun i => f (a.get i) (b.get i)⟩ :=
  zipWith_of_join f (Shape.join_self s) (Shape.reading?_self s) (Shape.reading?_self s) a b

/-- A single cell meets every cell. -/
theorem zipWith_scalar (f : α → β → γ) (g : Grid α) (b : β) :
    zipWith f g (scalar b) = .ok (g.map fun a => f a b) :=
  zipWith_of_join f (Shape.join_nil g.shape) (Shape.reading?_self g.shape)
    (Shape.reading?_nil g.shape) g.cells b

@[inherit_doc zipWith_scalar]
theorem scalar_zipWith (f : α → β → γ) (a : α) (g : Grid β) :
    zipWith f (scalar a) g = .ok (g.map fun b => f a b) :=
  zipWith_of_join f (Shape.nil_join g.shape) (Shape.reading?_nil g.shape)
    (Shape.reading?_self g.shape) a g.cells

/-- A grid of the shape of one row meets every row. -/
theorem zipWith_row (f : α → β → γ) {n : Nat} {s : Shape} (a : Tensor α (n :: s))
    (b : Tensor β s) :
    zipWith f ⟨n :: s, a⟩ ⟨s, b⟩ = .ok ⟨n :: s, .ofFn fun p => f (a.get p) (b.get p.2)⟩ :=
  zipWith_of_join f (Shape.join_row n s) (Shape.reading?_self (n :: s)) (Shape.reading?_row n s) a b

/-- **`mul a b`** — the product, cell by cell. -/
def mul [Mul α] (a b : Grid α) : Except Fault (Grid α) :=
  zipWith (· * ·) a b

/-- **`add a b`** — the sum, cell by cell. -/
def add [Add α] (a b : Grid α) : Except Fault (Grid α) :=
  zipWith (· + ·) a b

/-- **`sub a b`** — the difference, cell by cell. -/
def sub [Sub α] (a b : Grid α) : Except Fault (Grid α) :=
  zipWith (· - ·) a b

/-- **`div a b`** — the quotient, cell by cell. -/
def div [Div α] (a b : Grid α) : Except Fault (Grid α) :=
  zipWith (· / ·) a b

/-! ## §2 The first axis -/

/-- **`sumFirst g`** — the sums along the first axis, each from zero. An array of no axes is summed as
the one cell that it has. -/
def sumFirst [Zero α] [Add α] : Grid α → Grid α
  | ⟨[], a⟩ => ⟨[], (0 : α) + a⟩
  | ⟨_ :: s, t⟩ =>
    ⟨s, .ofFn fun p => Summation.ofColumn (s.all (· == 1)) fun i => t.get (i, p)⟩

/-- **`appendFirst a b`** — the rows of `a`, then those of `b`; all other axes must be the same. -/
def appendFirst : Grid α → Grid α → Except Fault (Grid α)
  | ⟨m :: s, a⟩, ⟨n :: t, b⟩ =>
    if h : t = s then
      .ok ⟨(m + n) :: s, (a : Vector (Tensor α s) m) ++ (h ▸ b : Vector (Tensor α s) n)⟩
    else .error .shapesDisagree
  | _, _ => .error .shapesDisagree

/-- **`underOne g`** — the same array under a first axis of length one. -/
def underOne (g : Grid α) : Grid α :=
  ⟨1 :: g.shape, #v[g.cells]⟩

/-- Arrays of shape `s`, one for each member of a list, if they all have it. -/
def rowsOf (s : Shape) : List (Grid α) → Option (List (Tensor α s))
  | [] => some []
  | g :: gs =>
    if h : g.shape = s then (rowsOf s gs).map ((h ▸ g.cells) :: ·) else none

/-- **`stack gs`** — arrays of one shape under a new first axis. -/
def stack : List (Grid α) → Except Fault (Grid α)
  | [] => .ok ⟨[0], #v[]⟩
  | g :: gs =>
    match rowsOf g.shape gs with
    | some rows => .ok ⟨(rows.length + 1) :: g.shape, ⟨(g.cells :: rows).toArray, by simp⟩⟩
    | none => .error .shapesDisagree

/-- **`reshape s g`** — the same cells in the shape `s`, if it has as many. -/
def reshape (s : Shape) (g : Grid α) : Except Fault (Grid α) :=
  match Tensor.ofList? s g.toList with
  | some t => .ok ⟨s, t⟩
  | none => .error .shapesDisagree

end Grid

/-! ## §3 Operands -/

/-- **`Operand α`** — an array that a function is given, or the fault that reading it met. A function
looks at its operands in order, so the order decides which of two faults is reported. -/
abbrev Operand (α : Type u) := Except Fault (Grid α)

instance {α : Type u} : Coe (Grid α) (Operand α) := ⟨.ok⟩

end FlightAttitude
