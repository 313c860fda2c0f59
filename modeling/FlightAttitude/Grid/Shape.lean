/-
# FlightAttitude.Grid.Shape — shapes, positions, and how two shapes agree

A shape lists the lengths of the axes, the first axis first. Two shapes agree when, laid side by side
with their **last** axes aligned, the two lengths of each axis are equal or one of them is one; the
shorter shape counts as having leading axes of length one. `Shape.join` is the shape that both are
read in, and `Shape.reading?` says which position of the smaller array stands at each position of the
larger one.

Since a stack of vectors keeps the components on its first axis, a single vector of shape `[3]` meets
a stack of shape `[3, n]` along the columns, not along the components. They agree only for `n = 1` and
`n = 3`.

Main facts: `Shape.join_self`, a shape agrees with itself, and `Shape.reading?_self`, it is then read
position for position; `Shape.join_nil` and `Shape.reading?_nil`, a shape of no axes agrees with every
shape, and its one cell stands at every position; `Shape.join_row` and `Shape.reading?_row`, a shape
agrees with one that has one more leading axis, and is then read along it again and again.
-/

namespace FlightAttitude

/-- **`Shape`** — the lengths of the axes. -/
abbrev Shape := List Nat

/-- **`maxAxes`** — the most axes that an array may have. -/
def maxAxes : Nat := 64

/-- **`Position s`** — one index for each axis. -/
@[reducible] def Position : Shape → Type
  | [] => Unit
  | n :: s => Fin n × Position s

namespace Position

/-- **`append p q`** — the position with the indices of `p`, then those of `q`. -/
def append : {s t : Shape} → Position s → Position t → Position (s ++ t)
  | [], _, _, q => q
  | _ :: _, _, (i, p), q => (i, append p q)

/-- **`split s p`** — the indices on the axes of `s`, and those on the axes after them. -/
def split : (s : Shape) → {t : Shape} → Position (s ++ t) → Position s × Position t
  | [], _, q => ((), q)
  | _ :: s, _, (i, p) =>
    let (a, b) := split s p
    ((i, a), b)

theorem split_append : {s t : Shape} → (p : Position s) → (q : Position t) →
    split s (append p q) = (p, q)
  | [], _, _, _ => rfl
  | _ :: _, _, (i, p), q => by simp [append, split, split_append p q]

end Position

namespace Shape

/-! ## §1 Agreement -/

/-- **`joinAxes s t`** — the common shape of two shapes with the same number of axes. -/
def joinAxes : Shape → Shape → Option Shape
  | [], [] => some []
  | m :: s, n :: t =>
    (joinAxes s t).bind fun r =>
      if m = n then some (m :: r)
      else if m = 1 then some (n :: r)
      else if n = 1 then some (m :: r)
      else none
  | _, _ => none

/-- **`padTo k s`** — `s` with leading axes of length one, up to `k` axes. -/
def padTo (k : Nat) (s : Shape) : Shape :=
  List.replicate (k - s.length) 1 ++ s

/-- **`join s t`** — the shape in which arrays of shapes `s` and `t` are read together, if they agree. -/
def join (s t : Shape) : Option Shape :=
  joinAxes (padTo t.length s) (padTo s.length t)

/-- **`alongAxes? s t`** — where in shape `s` the positions of shape `t` are found, axis by axis. -/
def alongAxes? : (s t : Shape) → Option (Position t → Position s)
  | [], [] => some id
  | m :: s, n :: t =>
    (alongAxes? s t).bind fun f =>
      if h : m = n then some fun (i, p) => (i.cast h.symm, f p)
      else if h : m = 1 then some fun (_, p) => (⟨0, by omega⟩, f p)
      else none
  | _, _ => none

/-- **`reading? s t`** — where in shape `s` the positions of shape `t` are found: leading axes that `s`
lacks are passed over. -/
def reading? (s : Shape) : (t : Shape) → Option (Position t → Position s)
  | [] => alongAxes? s []
  | n :: t =>
    if s.length ≤ t.length then (reading? s t).map fun f p => f p.2
    else alongAxes? s (n :: t)

/-- **`isShared s e`** — whether an array of shape `e` is one number that all cells of an array of shape
`s` are read with: it has no axes, or a single cell which is stretched over another shape. -/
def isShared (s e : Shape) : Bool :=
  e.isEmpty || (e.all (· == 1) && !s.isEmpty && s != e)

/-! ## §2 A shape beside itself, and beside no axes -/

theorem joinAxes_self (s : Shape) : joinAxes s s = some s := by
  induction s with
  | nil => rfl
  | cons n s ih => simp [joinAxes, ih]

theorem join_self (s : Shape) : join s s = some s := by
  simp [join, padTo, joinAxes_self]

theorem alongAxes?_self (s : Shape) : alongAxes? s s = some id := by
  induction s with
  | nil => rfl
  | cons n s ih =>
    simp only [alongAxes?, ih, Option.bind_some, dite_true]
    rfl

theorem reading?_self (s : Shape) : reading? s s = some id := by
  cases s with
  | nil => rfl
  | cons n s =>
    have : ¬ (n :: s).length ≤ s.length := by simp
    simp only [reading?, this, if_false, alongAxes?_self]

theorem joinAxes_ones (s : Shape) : joinAxes s (List.replicate s.length 1) = some s := by
  induction s with
  | nil => rfl
  | cons n s ih =>
    by_cases h : n = 1
    · simp [joinAxes, List.replicate_succ, ih, h]
    · simp [joinAxes, List.replicate_succ, ih, h]

theorem join_nil (s : Shape) : join s [] = some s := by
  simp [join, padTo, joinAxes_ones]

theorem ones_joinAxes (s : Shape) : joinAxes (List.replicate s.length 1) s = some s := by
  induction s with
  | nil => rfl
  | cons n s ih =>
    rw [List.length_cons, List.replicate_succ]
    by_cases h : 1 = n
    · rw [joinAxes, ih, Option.bind_some, if_pos h, h]
    · rw [joinAxes, ih, Option.bind_some, if_neg h, if_pos rfl]

theorem nil_join (s : Shape) : join [] s = some s := by
  simp [join, padTo, ones_joinAxes]

theorem reading?_nil (s : Shape) : reading? [] s = some fun _ => () := by
  induction s with
  | nil => rfl
  | cons n s ih => simp [reading?, ih]

/-! ## §3 A shape beside one of its rows -/

theorem padTo_row (n : Nat) (s : Shape) : padTo (n :: s).length s = 1 :: s := by
  simp [padTo]

theorem row_padTo (n : Nat) (s : Shape) : padTo s.length (n :: s) = n :: s := by
  simp [padTo]

theorem join_row (n : Nat) (s : Shape) : join (n :: s) s = some (n :: s) := by
  rw [join, padTo_row, row_padTo, joinAxes, joinAxes_self, Option.bind_some]
  by_cases h : n = 1
  · rw [if_pos h]
  · rw [if_neg h, if_neg h, if_pos rfl]

theorem reading?_row (n : Nat) (s : Shape) : reading? s (n :: s) = some fun p => p.2 := by
  simp [reading?, reading?_self]

/-! ## §4 The last two axes -/

/-- **`splitLastTwo? s`** — the leading axes of a shape of at least two axes, and its last two. -/
def splitLastTwo? : (s : Shape) → Option { r : Shape × Nat × Nat // s = r.1 ++ [r.2.1, r.2.2] }
  | [] => none
  | [_] => none
  | [k, m] => some ⟨([], k, m), rfl⟩
  | n :: k :: m :: s =>
    (splitLastTwo? (k :: m :: s)).map fun ⟨r, h⟩ => ⟨(n :: r.1, r.2), by simp [h]⟩

end Shape

end FlightAttitude
