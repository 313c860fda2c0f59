/-
# FlightAttitude.Decimal.Layout — how a number is written

The digits come from `Decimal.shortest`; a `Layout` says where the point goes and when an exponent is
written. `Layout.standard` is the one used for every number this library shows.
-/
import FlightAttitude.Decimal.Shortest

namespace FlightAttitude.Decimal

/-- **`Layout`** — the decisions of a way of writing numbers. -/
structure Layout where
  /-- The least power of ten of a leading digit that is written without an exponent. -/
  plainFrom : Int
  /-- The least power of ten, above those, that is written with one again. -/
  plainBelow : Int
  /-- What follows a whole number that is written without an exponent. -/
  wholeMark : String
  /-- The least number of digits of an exponent, whose sign is always written. -/
  exponentDigits : Nat
  infinity : String
  undefined : String

/-- **`Layout.standard`** — plain from `0.0001` to below `10 ^ 16`, whole numbers marked by `.0`, at least
two digits of exponent. -/
def Layout.standard : Layout where
  plainFrom := -4
  plainBelow := 16
  wholeMark := ".0"
  exponentDigits := 2
  infinity := "inf"
  undefined := "nan"

/-- A run of zeros. -/
def zeros (n : Nat) : String :=
  String.ofList (List.replicate n '0')

/-- **`Layout.writeDecimal l d`** — a positive decimal. -/
def Layout.writeDecimal (l : Layout) (d : Decimal) : String :=
  let digits := toString d.coefficient
  let count := digits.length
  let top : Int := d.exponent + count - 1
  if l.plainFrom ≤ top && top < l.plainBelow then
    if top < 0 then
      -- the point stands before all digits
      "0." ++ zeros (-top - 1).toNat ++ digits
    else
      -- the point stands after `whole` digits
      let whole := top.toNat + 1
      if count ≤ whole then digits ++ zeros (whole - count) ++ l.wholeMark
      else String.ofList (digits.toList.take whole) ++ "." ++ String.ofList (digits.toList.drop whole)
  else
    let mantissa :=
      match digits.toList with
      | first :: [] => String.ofList [first]
      | first :: rest => String.ofList (first :: '.' :: rest)
      | [] => ""
    let size := toString top.natAbs
    mantissa ++ "e" ++ (if top < 0 then "-" else "+") ++ zeros (l.exponentDigits - size.length) ++ size

example : Layout.standard.writeDecimal ⟨125, -2⟩ = "1.25" := by decide +kernel

example : Layout.standard.writeDecimal ⟨12, 14⟩ = "1200000000000000.0" := by decide +kernel

example : Layout.standard.writeDecimal ⟨15, 15⟩ = "1.5e+16" := by decide +kernel

example : Layout.standard.writeDecimal ⟨1, -4⟩ = "0.0001" := by decide +kernel

example : Layout.standard.writeDecimal ⟨1, -5⟩ = "1e-05" := by decide +kernel

/-- **`Layout.write l x`** — the text of a float. A zero keeps its sign. -/
def Layout.write (l : Layout) (x : Float) : String :=
  match Binary64.ofFloat? x with
  | none => if x.isNaN then l.undefined else if x < 0 then "-" ++ l.infinity else l.infinity
  | some v =>
    let text := if v.significand = 0 then "0" ++ l.wholeMark else l.writeDecimal (shortest v)
    if v.negative then "-" ++ text else text

end FlightAttitude.Decimal

/-- **`FlightAttitude.numberText x`** — a float as this library writes it. -/
def FlightAttitude.numberText (x : Float) : String :=
  Decimal.Layout.standard.write x
