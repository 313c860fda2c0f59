/-
# FlightAttitude.Converter.Options — the options of a converter

A converter has four settings: the unit check, the unit tolerance, whether facing orientations are
robust, and the decimal places. Any value may be set. Settling the options turns a text that names a
unit check into that check and refuses any other text, then refuses a tolerance that is below zero or
cannot be compared with it.

A conversion reads the settings as they are (`Converter.ofAttributes`): a unit check that is none of
the four acts as the one that warns. Like the operations of options, a conversion is hidden by an
attribute of the same name.
-/
import FlightAttitude.Converter
import FlightAttitude.Numeral.Tolerance
import FlightAttitude.Options.Session

namespace FlightAttitude

namespace ConverterOptions

/-! ## §1 The fields -/

/-- **`unitCheck`** — the field that holds the unit check. -/
def unitCheck : String := "unit_check"

/-- **`unitTolerance`** — the field that holds the tolerance. -/
def unitTolerance : String := "unit_tolerance"

/-- **`robustFacing`** — the field that tells whether facing orientations are robust. -/
def robustFacing : String := "robust_look_rotation"

/-- **`decimalPlaces`** — the field that holds the decimal places. -/
def decimalPlaces : String := "decimal_places"

/-! ## §2 Settling -/

/-- **`acceptTolerance d`** — a tolerance has to be comparable with zero and not below it. -/
def acceptTolerance (d : Datum) : Except Fault Unit :=
  match d.less (.integer 0) with
  | .error _ => .error .incomparable
  | .ok true => .error .negativeTolerance
  | .ok false => .ok ()

/-- The value of an attribute; one that is not there counts as none. -/
def valueOf (field : String) (a : Attributes) : Datum :=
  ((a.get? field).map Setting.value).getD .none

/-- **`settleCheck a`** — a unit check given by its name is written over by the check itself. -/
def settleCheck (a : Attributes) : Except Fault (List (String × Setting)) :=
  match valueOf unitCheck a with
  | .text s =>
    match UnitCheck.ofText? s with
    | some c => .ok [(unitCheck, ⟨.check c, 0⟩)]
    | none => .error (.unknownCheck s)
  | _ => .ok []

/-- **`settling a`** — the check first, then the tolerance. -/
def settling (a : Attributes) : List (String × Setting) × Except Fault Unit :=
  match settleCheck a with
  | .error f => ([], .error f)
  | .ok written => (written, acceptTolerance (valueOf unitTolerance (a.setAll written)))

/-- **`kind`** — the options of a converter. -/
def kind : OptionsKind where
  fields := [
    (unitCheck, .check .ignore),
    (unitTolerance, .number Stack.defaultTolerance),
    (robustFacing, .flag false),
    (decimalPlaces, .none)]
  optionsName := "AttitudeConverterOptions"
  configuredName := "AttitudeConverter"
  settling := settling
  resetNotice := some .converterReset

/-- **`settle a`** — the options of a converter in their final form, and whether they are accepted. -/
def settle (a : Attributes) : Attributes × Except Fault Unit := kind.settle a

end ConverterOptions

/-! ## §3 The converter that the settings describe -/

/-- **`UnitCheck.ofDatum d`** — the check that a setting stands for. -/
def UnitCheck.ofDatum : Datum → UnitCheck
  | .check c => c
  | _ => .warn

/-- **`placesOf d`** — the decimal places that a setting stands for, if it asks for rounding. -/
def placesOf : Datum → Except Fault (Option Int)
  | .none => .ok none
  | .integer i => (Numeral.places i).map some
  | .flag b => .ok (some (if b then 1 else 0))
  | _ => .error .placesNotWhole

/-- **`roundName`** — the name of the operation that rounds angles. -/
def roundName : String := "_round"

/-- **`Converter.ofAttributes a`** — the converter with these settings. -/
def Converter.ofAttributes (a : Attributes) : Converter Float where
  check := .ofDatum (ConverterOptions.valueOf ConverterOptions.unitCheck a)
  tolerance := (Numeral.ofDatum (ConverterOptions.valueOf ConverterOptions.unitTolerance a)).tolerances
  robust := (ConverterOptions.valueOf ConverterOptions.robustFacing a).truthy
  places :=
    if (a.get? roundName).isSome then .error .hiddenOperation
    else placesOf (ConverterOptions.valueOf ConverterOptions.decimalPlaces a)

/-- **`Converter.Conversion.calls x`** — the names of the operations that a conversion begins with. -/
def Converter.Conversion.calls {α : Type} : Converter.Conversion α → List String
  | .prepare _ => ["prepare"]
  | .inverses _ => ["inverse", "prepare"]
  | .attitudes _ => ["pitch_heading_roll", "prepare"]
  | .pitches _ => ["pitch", "pitch_heading_roll", "prepare"]
  | .headings _ => ["heading", "pitch_heading_roll", "prepare"]
  | .rolls _ => ["roll", "pitch_heading_roll", "prepare"]
  | .eulerAngles _ _ => ["euler_angles", "prepare"]
  | .facing _ _ => ["look_rotation"]

/-! ## §4 Sessions with conversions -/

/-- **`ConverterStep`** — a step on the options, or a conversion by one of the configured objects. -/
inductive ConverterStep where
  | options (x : Session.OptionsStep)
  | convert (who : Owner) (x : Converter.Conversion Float)

/-- **`ConverterShown`** — what such a step shows. -/
inductive ConverterShown where
  | options (x : Session.Shown)
  | converted (x : Converter.Converted Float)

/-- **`Session.converterStep s x`** — the step `x` in a session of a converter. Conversions read the
settings and change none. -/
def Session.converterStep (s : Session) : ConverterStep → Session × Report ConverterShown
  | .options x =>
    let after := step ConverterOptions.kind s x
    (after.1, .options <$> after.2)
  | .convert who x =>
    if x.calls.any fun name => s.hides (who.holder, name) then (s, .fail .hiddenOperation)
    else (s, .converted <$> (Converter.ofAttributes (s.configuredAs who)).convert x)

/-- **`Session.converterRun s xs`** — the session after a run of such steps. -/
def Session.converterRun (s : Session) (xs : List ConverterStep) : Session :=
  xs.foldl (fun s x => (converterStep s x).1) s

end FlightAttitude
