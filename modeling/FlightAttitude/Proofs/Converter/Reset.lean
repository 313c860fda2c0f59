/-
# FlightAttitude.Proofs.Converter.Reset — a reset brings a converter back to its first options

A converter keeps a copy of the options that it was made from, in their final form. As long as
nothing is written to that copy, and nothing but fields to the converter, a reset restores the values
that the options had, whatever else was done (`Session.reset_restores`). What the caller does to the
options object itself never reaches the copy.

A reset says what it has restored. Where there is a limit to the digits of a number that is written, a
reset to a longer one restores it and then fails, being unable to say so. Without a limit every value
can be written (`Datum.isSome_written_none`), and such a reset does not fail.

The invariant is `Session.Restorable`; its step is `Session.Restorable.change`.
-/
import FlightAttitude.Proofs.Converter.Settings
import FlightAttitude.Proofs.Options.Invariant

namespace FlightAttitude

/-! ## §1 Values that can be written -/

namespace Datum

mutual

/-- **Without a limit every value can be written.** -/
theorem isSome_written_none : ∀ d : Datum, (d.written Option.none).isSome
  | none | flag true | flag false | integer _ | number _ | text _ | check _ | order _ | handle _ => rfl
  | list members => by
    rw [written, Option.isSome_map]
    exact isSome_writtenMembers_none members
  | tuple [] => rfl
  | tuple [d] => by
    rw [written, Option.isSome_map]
    exact isSome_written_none d
  | tuple (d :: e :: ds) => by
    rw [written, Option.isSome_map]
    · exact isSome_writtenMembers_none (d :: e :: ds)
    · simp
  | table rows => by
    rw [written, Option.isSome_map]
    exact isSome_writtenRows_none rows

theorem isSome_writtenMembers_none : ∀ ds : List Datum, (writtenMembers Option.none ds).isSome
  | [] => rfl
  | d :: ds => by
    obtain ⟨text, first⟩ := Option.isSome_iff_exists.mp (isSome_written_none d)
    rw [writtenMembers, first, Option.bind_some, Option.isSome_map]
    exact isSome_writtenMembers_none ds

theorem isSome_writtenRows_none :
    ∀ rows : List (String × Datum), (writtenRows Option.none rows).isSome
  | [] => rfl
  | (_, d) :: rows => by
    obtain ⟨text, first⟩ := Option.isSome_iff_exists.mp (isSome_written_none d)
    rw [writtenRows, first, Option.bind_some, Option.isSome_map]
    exact isSome_writtenRows_none rows

end

/-- The first whole number that is not written unless another limit is set. -/
example : (integer (10 ^ 4300 - 1)).written digitLimit ≠ Option.none ∧
    (integer (10 ^ 4300)).written digitLimit = Option.none := by
  decide +kernel

end Datum

namespace ConverterOptions

variable {a : Attributes} {v : Values}

/-- **`Values.Legible limit v`** — each of the settings can be written. -/
def Values.Legible (limit : Option Nat) (v : Values) : Prop :=
  ∀ e ∈ v.entries, (e.2.written limit).isSome

theorem isSome_written_iff (settings : values? a = some v) (limit : Option Nat) (name : String) :
    (kind.written limit name a).isSome ↔ v.Legible limit := by
  rw [OptionsKind.isSome_written, List.all_eq_true, Values.Legible, ← map_value_fieldsIn settings,
    List.forall_mem_map]

end ConverterOptions

/-! ## §2 Runs before a reset -/

namespace Session

open ConverterOptions

variable {s fresh : Session} {made copy kept : Attributes} {v : Values} {n m : Nat}

theorem Restorable.converterRun {xs : List ConverterStep}
    (spares : ∀ x, .options x ∈ xs → x.Spares kind) (separate : s.Separate)
    (restorable : Restorable kind kept s.view) :
    (s.converterRun xs).Separate ∧ Restorable kind kept (s.converterRun xs).view :=
  converterRun_invariant (OptionsStep.Spares kind)
    (fun _ _ _ spares restorable change => restorable.change lawful spares change) spares separate
    restorable

end Session

end FlightAttitude
