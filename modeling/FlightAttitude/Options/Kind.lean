/-
# FlightAttitude.Options.Kind — kinds of options

An options object carries the settings that an object is configured by. Its kind says which fields it
has, with their defaults, and how the settings are put into their final form before they are used
(`OptionsKind.settling`): that step may write over some of them, and may refuse them.

Applying options settles them and then copies every field onto the target. The copies share nothing
with the options, and attributes of the target that are no fields stay as they are.
-/
import FlightAttitude.Options.Attributes
import FlightAttitude.Report

namespace FlightAttitude

/-- **`OptionsKind`** — the options that one kind of object is configured by. -/
structure OptionsKind where
  /-- The fields in order, each with the value it has when none is given. -/
  fields : List (String × Datum)
  /-- The name of the class of options. -/
  optionsName : String
  /-- The name of the class that is configured. -/
  configuredName : String
  /-- What is written over options to bring them into their final form, and whether they are then
  accepted. What was written before a fault stays written. -/
  settling : Attributes → List (String × Setting) × Except Fault Unit
  /-- What is said after a reset to options that are written like this, if anything is. -/
  resetNotice : Option (String → Notice)

namespace OptionsKind

/-! ## §1 Options objects -/

/-- **`defaults k`** — the options with every field at its default. -/
def defaults (k : OptionsKind) : Attributes :=
  k.fields.foldl (fun a (name, d) => a.set name ⟨d, 0⟩) .empty

/-- The options `a` with the given values, the first of them from write number `origin`. -/
def assign (k : OptionsKind) (origin : Nat) :
    (given : List (String × Datum)) → Attributes → Except Fault Attributes
  | [], a => .ok a
  | (name, d) :: rest, a =>
    if (k.fields.lookup name).isSome then assign k (origin + 1) rest (a.set name ⟨d, origin⟩)
    else .error .noSuchOption

/-- **`make k origin given`** — options with the given values; only fields can be given. -/
def make (k : OptionsKind) (origin : Nat) (given : List (String × Datum)) :
    Except Fault Attributes :=
  k.assign origin given k.defaults

/-- **`settle k a`** — the options in their final form, and whether they are accepted. -/
def settle (k : OptionsKind) (a : Attributes) : Attributes × Except Fault Unit :=
  (a.setAll (k.settling a).1, (k.settling a).2)

/-- **`fieldsIn k a`** — the fields of an object, in their order. -/
def fieldsIn {β : Type} (k : OptionsKind) (a : Entries β) : List (String × β) :=
  k.fields.filterMap fun field => (a.get? field.1).map fun v => (field.1, v)

/-! ## §2 Reading -/

/-- **`written k limit name a`** — an object of the class `name` as it stands in a message: its fields
only, and nothing where one of them cannot be written. -/
def written (k : OptionsKind) (limit : Option Nat) (name : String) (a : Attributes) :
    Option String :=
  let field (e : String × Setting) : Option String :=
    (e.2.value.written limit).map fun text => e.1 ++ "=" ++ text
  ((k.fieldsIn a).mapM field).map fun texts => name ++ "(" ++ ", ".intercalate texts ++ ")"

/-- **`same k a b`** — whether two objects agree in every field. -/
def same (k : OptionsKind) (a b : Attributes) : Bool :=
  k.fields.all fun (name, _) =>
    match a.get? name, b.get? name with
    | some v, some w => v.same w
    | _, _ => false

/-- **`fieldsOf k a`** — the fields of an object, without its other attributes. -/
def fieldsOf (k : OptionsKind) (a : Attributes) : Attributes :=
  .setAll (k.fieldsIn a) .empty

end OptionsKind

end FlightAttitude
