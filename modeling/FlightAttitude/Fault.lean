/-
# FlightAttitude.Fault — why a call fails

A `Fault` names the cause. Some causes are explained in words of this library (`Fault.message`); the
others are plain misuse of arrays, numbers or attributes, and have no text of their own.
-/
import FlightAttitude.Datum
import FlightAttitude.Grid.Shape

namespace FlightAttitude

/-- **`Fault`** — the causes of failure. -/
inductive Fault where
  /-- Nested lists that are not one array: members of different shapes, or too many axes. -/
  | ragged
  /-- A whole number, or a power of finite numbers, beyond every float. -/
  | beyondFloats
  /-- Zero to a negative power, where infinity is no answer. -/
  | zeroToNegative
  /-- Something that is no number where one is needed. -/
  | notANumber
  /-- Two values that cannot be put in order. -/
  | incomparable
  /-- Arrays whose shapes do not agree. -/
  | shapesDisagree
  /-- An array of no axes where a first axis is summed over. -/
  | noFirstAxis
  /-- An array of no axes where the length of the first axis is asked for. -/
  | noLength
  /-- An array of no axes where it is to be taken apart. -/
  | notDivisible
  /-- An array that does not come apart into three. -/
  | notThreeParts
  /-- A cross product of vectors that have neither three components nor two. -/
  | noCrossFactor
  /-- A cross product of columns that are stacked along too many axes. -/
  | tooManyColumnAxes
  /-- A row or a column that an array does not have. -/
  | noSuchRow
  /-- More axes than an array may have. -/
  | tooManyAxes
  /-- An array that is neither a vector nor a quaternion where a tuple is made. -/
  | noTuple (shape : Shape)
  /-- An array that is not one vector. -/
  | noVector (shape : Shape)
  /-- An array that is not one quaternion. -/
  | noQuaternion (shape : Shape)
  /-- A stack of quaternions whose first axis is not of length four. -/
  | firstAxisNotFour
  /-- A stack of vectors whose first axis is not of length three. -/
  | firstAxisNotThree
  /-- An array that is neither one matrix nor a stack of them. -/
  | noMatrices
  /-- An axis order that is not supported. -/
  | unsupportedOrder (order : Datum)
  /-- A text that names no unit check. -/
  | unknownCheck (given : String)
  /-- A unit tolerance below zero. -/
  | negativeTolerance
  /-- A quaternion that is not of length one where that is refused. -/
  | nonUnit
  /-- A number of places that is no whole number. -/
  | placesNotWhole
  /-- A number of places beyond 32 bits. -/
  | placesTooLarge
  /-- An attribute or a method that the object does not have. -/
  | noAttribute
  /-- An attribute that is computed, where it is to be set. -/
  | fixedAttribute
  /-- A value that has no attributes where they are to be shown. -/
  | noObject
  /-- An operation that an attribute of the same name hides. -/
  | hiddenOperation
  /-- An array of several cells, or of none, where a truth value is needed. -/
  | noTruthValue
  /-- An option that the options class does not have. -/
  | noSuchOption
  /-- A value that cannot be copied where a copy of it is kept. -/
  | uncopyable
  /-- A whole number of too many digits where it is to be written. -/
  | tooManyDigits
  deriving Inhabited

namespace Fault

/-- A shape as it stands in a message. -/
def shapeText : Shape → String
  | [] => "()"
  | [n] => "(" ++ toString n ++ ",)"
  | s => "(" ++ ", ".intercalate (s.map toString) ++ ")"

/-- What is said of a quaternion that is not of length one; the array itself is left out. -/
def nonUnitText : String := "Non-unit length quaternion <array>"

/-- **`message f`** — the explanation of a fault that has one. An axis order that cannot be written is
refused without one. -/
def message : Fault → Option String
  | noTuple s => some <|
      "Only 3 element vectors and 4 element quaternions can be converted to a tuple. Got shape " ++
        shapeText s
  | noVector s => some <| "A vector must have exactly 3 elements. Got shape " ++ shapeText s
  | noQuaternion s => some <| "A quaternion must have exactly 4 elements. Got shape " ++ shapeText s
  | firstAxisNotFour => some "The length of the first axis must be 4"
  | firstAxisNotThree => some "The length of the first axis must be equal to 3"
  | noMatrices => some "Invalid Shape"
  | unsupportedOrder d =>
      (d.written Datum.digitLimit).map fun text => "Axis order not supported: " ++ text
  | unknownCheck s => some <|
      "Unknown unit quaternion check " ++ Text.quoted s ++ ". Must be one of " ++ "[" ++
        ", ".intercalate (UnitCheck.all.map fun c => Text.quoted c.name) ++ "]"
  | negativeTolerance => some "The unit tolerance must be non-negative"
  | nonUnit => some nonUnitText
  | _ => none

/-- A step that succeeds leaves the answer to what follows. -/
theorem ok_bind {β γ : Type} (a : β) (f : β → Except Fault γ) :
    (Except.ok a : Except Fault β) >>= f = f a := rfl

/-- What did not fail has a result. -/
theorem exists_of_isOk {β : Type} {r : Except Fault β} (ok : r.isOk = true) : ∃ a, r = .ok a := by
  cases r with
  | error f => cases ok
  | ok a => exact ⟨a, rfl⟩

end Fault

end FlightAttitude
