/-
# FlightAttitude.Scalar — what a formula may ask of its numbers

Every formula of the library is written once, over an abstract number type `α`, and asks only for
the operations it uses. Ring operations, division and order come from Lean's own classes; what is
left — integer parts, square root, trigonometry, powers of ten, finiteness — is named here. The
classes hold operations and no laws: the same definition then runs on binary floating numbers
(`FlightAttitude.Scalar.Binary64`) and can be read over the reals, the rationals, or any model of
rounding.

Order tests are written with `<` and `≤` alone. Where an operand may be no number at all, both tests
fail, and each definition below says what it answers then.
-/

namespace FlightAttitude

universe u

/-! ## §1 Operations beyond the ring -/

/-- Roundings to an integer, and the remainder that belongs to rounding toward zero. -/
class IntegerParts (α : Type u) where
  /-- The greatest integer that is not above the argument. -/
  floor : α → α
  /-- The nearest integer; a half goes to the even neighbour. -/
  nearest : α → α
  /-- `remainder a b` is `a` less `b` times the quotient cut off toward zero: it has the sign of `a`. -/
  remainder : α → α → α

/-- The square root, for the lengths of vectors and quaternions. -/
class SquareRoot (α : Type u) where
  sqrt : α → α

/-- A test that a number is neither infinite nor undefined. -/
class Finiteness (α : Type u) where
  isFinite : α → Bool

/-- The circular functions, in radians. -/
class Trigonometry (α : Type u) where
  pi : α
  sin : α → α
  cos : α → α
  arcsin : α → α
  /-- `arctan2 y x` is the direction of the point `(x, y)`. -/
  arctan2 : α → α → α

/-- The powers of ten that rounding to decimal places scales by. -/
class PowersOfTen (α : Type u) where
  powTen : Nat → α

/-- Raising to a real exponent. -/
class RealPower (α : Type u) where
  pow : α → α → α
  /-- The power with an exponent that many numbers are raised to. Where that is a reciprocal, a root or a
  square, it may be computed as one. -/
  powShared : α → α → α

/-- Narrowing to the coarser format in which short vectors are exchanged. -/
class Narrowing (α : Type u) where
  narrow : α → α

export IntegerParts (floor nearest remainder)
export SquareRoot (sqrt)
export Finiteness (isFinite)
export Trigonometry (pi sin cos arcsin arctan2)
export PowersOfTen (powTen)

variable {α : Type u}

/-! ## §2 Angles with a name, in degrees -/

section Turns

variable [NatCast α]

/-- **`quarterTurn`** — ninety degrees. -/
def quarterTurn : α := Nat.cast 90

/-- **`halfTurn`** — a hundred and eighty degrees. -/
def halfTurn : α := Nat.cast 180

/-- **`threeQuarterTurn`** — two hundred and seventy degrees. -/
def threeQuarterTurn : α := Nat.cast 270

/-- **`fullTurn`** — three hundred and sixty degrees. -/
def fullTurn : α := Nat.cast 360

/-- **`two`** — the factor that halves and doubles. -/
def two : α := Nat.cast 2

end Turns

/-! ## §3 Order -/

section Order

variable [LT α] [DecidableLT α]

/-- **`magnitude x`** — the absolute value. An undefined number stays undefined. -/
def magnitude [Zero α] [Neg α] (x : α) : α :=
  if x < 0 then -x else x

/-- **`clip lo hi x`** — `x` moved into `[lo, hi]`. An undefined number stays undefined. -/
def clip (lo hi x : α) : α :=
  if x < lo then lo else if hi < x then hi else x

/-- **`signum x`** — `-1`, `0` or `1`; both zeros give `0`, an undefined number stays undefined. -/
def signum [LE α] [DecidableLE α] [Zero α] [One α] [Neg α] (x : α) : α :=
  if x < 0 then -1 else if 0 < x then 1 else if x ≤ x then 0 else x

/-- **`atLeastZero x`** — `x`, or `0` where `x` is below it. An undefined number stays undefined. -/
def atLeastZero [Zero α] (x : α) : α :=
  if x < 0 then 0 else x

end Order

/-- **`exceeds best x`** — whether `x` displaces `best` as the greatest so far. The first of equals
stays; the first undefined number displaces all that came before it and is never displaced. -/
def exceeds [LE α] [DecidableLE α] (best x : α) : Bool :=
  decide (best ≤ best) && !decide (x ≤ best)

end FlightAttitude
