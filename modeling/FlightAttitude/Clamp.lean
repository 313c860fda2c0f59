/-
# FlightAttitude.Clamp — moving a value into a closed range

The lower bound is tried first, so with crossed bounds it wins, and the bounds are not checked
against each other. `clamp` serves an ordered type; `clampBy` serves values that not every pair of
which can be compared: its second comparison is made only when the first one answered no.
-/

namespace FlightAttitude

universe u v

/-- **`clamp value minimum maximum`** — `minimum` if `value` is below it, else `maximum` if that is below
`value`, else `value` itself. -/
def clamp {α : Type u} [LT α] [DecidableLT α] (value minimum maximum : α) : α :=
  if value < minimum then minimum else if maximum < value then maximum else value

/-- **`clampBy less value minimum maximum`** — the same, by a comparison that may fail. -/
def clampBy {ε : Type v} {α : Type u} (less : α → α → Except ε Bool) (value minimum maximum : α) :
    Except ε α :=
  match less value minimum with
  | .error e => .error e
  | .ok true => .ok minimum
  | .ok false =>
    match less maximum value with
    | .error e => .error e
    | .ok true => .ok maximum
    | .ok false => .ok value

/-- Where every comparison succeeds, the two agree. -/
theorem clampBy_ok {ε : Type v} {α : Type u} [LT α] [DecidableLT α] (value minimum maximum : α) :
    clampBy (ε := ε) (fun a b => .ok (decide (a < b))) value minimum maximum =
      .ok (clamp value minimum maximum) := by
  unfold clampBy clamp
  by_cases h : value < minimum <;> by_cases k : maximum < value <;> simp [h, k]

end FlightAttitude
