/-
# FlightAttitude.Proofs.Converter.Settings — the four settings of a converter

The settings of an object that has all of its fields are four values (`ConverterOptions.values?`).
Settling turns a unit check that is given by its name into the check itself and changes nothing else
(`ConverterOptions.SettleCase` lists how it can go), so the options of a converter are a lawful kind
(`ConverterOptions.lawful`). A conversion depends on the four values alone
(`Session.converterStep_convert`).
-/
import FlightAttitude.Converter.Options
import FlightAttitude.Proofs.Options.Start

namespace FlightAttitude

/-- A value is compared with a whole number by the number that it is, if it is one. -/
theorem Datum.less_integer (d : Datum) (i : Int) : d.less (.integer i) =
    match d.size? with
    | some z => .ok (z.less (.finite i 0))
    | Option.none => .error {} := by
  cases d <;> simp [less, size?]

namespace ConverterOptions

variable {a b : Attributes}

/-! ## §1 The values of the fields -/

/-- **`value? field a`** — the value of an attribute, if it is there. -/
def value? (field : String) (a : Attributes) : Option Datum := (a.get? field).map Setting.value

theorem valueOf_of_get? {field : String} {v : Setting} (there : a.get? field = some v) :
    valueOf field a = v.value := by
  rw [valueOf, there, Option.map_some, Option.getD_some]

theorem valueOf_of_value? {field : String} {d : Datum} (there : value? field a = some d) :
    valueOf field a = d := by
  rw [valueOf, ← value?, there, Option.getD_some]

/-- A text is not the value of an attribute that is missing. -/
theorem value?_of_valueOf_text {field t : String} (text : valueOf field a = .text t) :
    value? field a = some (.text t) := by
  rw [value?]
  cases held : (a.get? field).map Setting.value with
  | none =>
    rw [valueOf, held] at text
    cases text
  | some d =>
    rw [valueOf, held, Option.getD_some] at text
    rw [text]

theorem value?_of_isSome {field : String} (there : (a.get? field).isSome) :
    value? field a = some (valueOf field a) := by
  obtain ⟨v, held⟩ := Option.isSome_iff_exists.mp there
  rw [valueOf, value?, held, Option.map_some, Option.getD_some]

theorem isSome_get?_of_value? {field : String} {d : Datum} (there : value? field a = some d) :
    (a.get? field).isSome := by
  obtain ⟨v, held, -⟩ := Option.map_eq_some_iff.mp there
  rw [held, Option.isSome_some]

/-- **`Values`** — the four settings. -/
structure Values where
  check : Datum
  tolerance : Datum
  robust : Datum
  places : Datum

/-- **`values? a`** — the settings of an object that has all of the fields. -/
def values? (a : Attributes) : Option Values := do
  return {
    check := ← value? unitCheck a
    tolerance := ← value? unitTolerance a
    robust := ← value? robustFacing a
    places := ← value? decimalPlaces a }

theorem values?_eq_some_iff {v : Values} : values? a = some v ↔
    value? unitCheck a = some v.check ∧ value? unitTolerance a = some v.tolerance ∧
      value? robustFacing a = some v.robust ∧ value? decimalPlaces a = some v.places := by
  obtain ⟨check, tolerance, robust, places⟩ := v
  simp only [values?, Option.bind_eq_bind, Option.bind_eq_some_iff, Option.pure_def,
    Option.some.injEq, Values.mk.injEq]
  constructor
  · rintro ⟨_, one, _, two, _, three, _, four, rfl, rfl, rfl, rfl⟩
    exact ⟨one, two, three, four⟩
  · rintro ⟨one, two, three, four⟩
    exact ⟨_, one, _, two, _, three, _, four, rfl, rfl, rfl, rfl⟩

/-- **`Values.entries v`** — the settings with their names, in the order of the fields. -/
def Values.entries (v : Values) : List (String × Datum) :=
  [(unitCheck, v.check), (unitTolerance, v.tolerance), (robustFacing, v.robust),
    (decimalPlaces, v.places)]

/-- The fields of an object are its settings. -/
theorem map_value_fieldsIn {v : Values} (settings : values? a = some v) :
    (kind.fieldsIn a).map (fun e => (e.1, e.2.value)) = v.entries := by
  obtain ⟨check, tolerance, robust, places⟩ := values?_eq_some_iff.mp settings
  obtain ⟨c, hasCheck, isCheck⟩ := Option.map_eq_some_iff.mp check
  obtain ⟨t, hasTolerance, isTolerance⟩ := Option.map_eq_some_iff.mp tolerance
  obtain ⟨r, hasRobust, isRobust⟩ := Option.map_eq_some_iff.mp robust
  obtain ⟨p, hasPlaces, isPlaces⟩ := Option.map_eq_some_iff.mp places
  simp only [OptionsKind.fieldsIn, kind, List.filterMap_cons, List.filterMap_nil, hasCheck,
    hasTolerance, hasRobust, hasPlaces, Option.map_some, List.map_cons, List.map_nil, Values.entries,
    isCheck, isTolerance, isRobust, isPlaces]

/-- Options have fields. -/
theorem fieldsIn_ne_nil {v : Values} (settings : values? a = some v) : kind.fieldsIn a ≠ [] := by
  intro none
  have entries := map_value_fieldsIn settings
  rw [none] at entries
  cases entries

/-- **`canonicalCheck d`** — a text that names a unit check stands for that check. -/
def canonicalCheck : Datum → Datum
  | .text t =>
    match UnitCheck.ofText? t with
    | some c => .check c
    | none => .text t
  | d => d

/-- **`Values.canonical v`** — the settings with the unit check in its final form. -/
def Values.canonical (v : Values) : Values := { v with check := canonicalCheck v.check }

theorem canonicalCheck_of_notText {d : Datum} (notText : ∀ t, d ≠ .text t) :
    canonicalCheck d = d := by
  unfold canonicalCheck
  split
  next t => exact absurd rfl (notText t)
  next => rfl

/-! ## §2 Settling -/

theorem valueOf_set_self (field : String) (v : Setting) (a : Attributes) :
    valueOf field (a.set field v) = v.value := by
  rw [valueOf, Entries.get?_set_self, Option.map_some, Option.getD_some]

theorem valueOf_set_of_ne {field other : String} (ne : other ≠ field) (v : Setting)
    (a : Attributes) : valueOf other (a.set field v) = valueOf other a := by
  rw [valueOf, Entries.get?_set_of_ne ne, valueOf]

theorem unitTolerance_ne_unitCheck : unitTolerance ≠ unitCheck := by decide

/-- **`SettleCase a`** — the ways in which settling the attributes `a` can go. -/
inductive SettleCase (a : Attributes) : Prop
  /-- The check is a text that names none. -/
  | unknown {t : String} (text : valueOf unitCheck a = .text t) (none : UnitCheck.ofText? t = none)
      (result : settling a = ([], .error (.unknownCheck t)))
  /-- The check is a text that names one. -/
  | named {t : String} {c : UnitCheck} (text : valueOf unitCheck a = .text t)
      (names : UnitCheck.ofText? t = some c)
      (result : settling a =
        ([(unitCheck, ⟨.check c, 0⟩)], acceptTolerance (valueOf unitTolerance a)))
  /-- The check is no text. -/
  | plain (notText : ∀ t, valueOf unitCheck a ≠ .text t)
      (result : settling a = ([], acceptTolerance (valueOf unitTolerance a)))

theorem settling_of_notText (notText : ∀ t, valueOf unitCheck a ≠ .text t) :
    settling a = ([], acceptTolerance (valueOf unitTolerance a)) := by
  have check : settleCheck a = .ok [] := by
    unfold settleCheck
    split
    next t text => exact absurd text (notText t)
    next => rfl
  rw [settling, check]
  rfl

theorem settleCase (a : Attributes) : SettleCase a := by
  cases text : valueOf unitCheck a with
  | text t =>
    cases names : UnitCheck.ofText? t with
    | none =>
      have check : settleCheck a = .error (.unknownCheck t) := by simp only [settleCheck, text, names]
      exact .unknown text names (by rw [settling, check])
    | some c =>
      have check : settleCheck a = .ok [(unitCheck, ⟨.check c, 0⟩)] := by
        simp only [settleCheck, text, names]
      refine .named text names ?_
      rw [settling, check]
      simp only [Entries.setAll_cons, Entries.setAll_nil, valueOf_set_of_ne unitTolerance_ne_unitCheck]
  | _ =>
    have notText : ∀ t, valueOf unitCheck a ≠ .text t := by simp [text]
    exact .plain notText (settling_of_notText notText)

theorem settle_of_settling {es : List (String × Setting)} {r : Except Fault Unit}
    (result : settling a = (es, r)) : settle a = (a.setAll es, r) := by
  show (a.setAll (settling a).1, (settling a).2) = _
  rw [result]

/-- **Settling writes nothing but a check.** -/
theorem settling_mem {e : String × Setting} (mem : e ∈ (settling a).1) :
    ∃ c, e = (unitCheck, ⟨.check c, 0⟩) := by
  cases settleCase a with
  | unknown _ _ result | plain _ result =>
    rw [result] at mem
    cases mem
  | named _ _ result =>
    rw [result] at mem
    exact ⟨_, List.mem_singleton.mp mem⟩

theorem settle_frame {name : String} (other : name ≠ unitCheck) (a : Attributes) :
    (settle a).1.get? name = a.get? name := by
  refine Entries.get?_setAll_of_notMem fun mem => ?_
  obtain ⟨e, written, rfl⟩ := List.mem_map.mp mem
  obtain ⟨c, rfl⟩ := settling_mem written
  exact other rfl

/-- Settling puts the check into its final form, and is then about the tolerance alone. -/
theorem settle_accepted (accepted : (settle a).2 = .ok ()) :
    valueOf unitCheck (settle a).1 = canonicalCheck (valueOf unitCheck a) ∧
      (∀ t, valueOf unitCheck (settle a).1 ≠ .text t) ∧
      acceptTolerance (valueOf unitTolerance (settle a).1) = .ok () := by
  cases settleCase a with
  | unknown _ _ result =>
    rw [settle_of_settling result] at accepted
    cases accepted
  | named text names result =>
    rw [settle_of_settling result] at accepted ⊢
    simp only [Entries.setAll_cons, Entries.setAll_nil]
    refine ⟨?_, ?_, ?_⟩
    · rw [valueOf_set_self, text, canonicalCheck, names]
    · rw [valueOf_set_self]
      exact fun t => nofun
    · rw [valueOf_set_of_ne unitTolerance_ne_unitCheck]
      exact accepted
  | plain notText result =>
    rw [settle_of_settling result] at accepted ⊢
    exact ⟨(canonicalCheck_of_notText notText).symm, notText, accepted⟩

theorem settle_final (accepted : (settle a).2 = .ok ()) :
    settle (settle a).1 = ((settle a).1, .ok ()) := by
  obtain ⟨-, notText, tolerance⟩ := settle_accepted accepted
  rw [settle_of_settling (settling_of_notText notText), tolerance, Entries.setAll_nil]

theorem lawful : kind.Lawful where
  settling_mem a e mem := by
    obtain ⟨c, rfl⟩ := settling_mem mem
    exact List.mem_cons_self
  settle_final a accepted := settle_final accepted
  applyName_notMem := by decide
  settleName_notMem := by decide
  resetName_notMem := by decide
  slot_of_mem name mem h cls := by
    have ordinary : name ≠ Session.fieldsName ∧ name ≠ Session.keptName ∧
        name ≠ Session.storedName := by
      revert name
      decide
    simp only [Session.Slot.of, ordinary, if_false]

/-- Options that were accepted have the settings that were given, with the check in its final form. -/
theorem values?_settle {v : Values} (given : values? a = some v) (accepted : (settle a).2 = .ok ()) :
    values? (settle a).1 = some v.canonical := by
  have ⟨check, tolerance, robust, places⟩ := values?_eq_some_iff.mp given
  have still : ((settle a).1.get? unitCheck).isSome :=
    kind.isSome_get?_settle (isSome_get?_of_value? check)
  refine values?_eq_some_iff.mpr ⟨?_, ?_, ?_, ?_⟩
  · rw [value?_of_isSome still, (settle_accepted accepted).1, valueOf_of_value? check,
      Values.canonical]
  · rw [value?, settle_frame (by decide), ← value?, tolerance, Values.canonical]
  · rw [value?, settle_frame (by decide), ← value?, robust, Values.canonical]
  · rw [value?, settle_frame (by decide), ← value?, places, Values.canonical]

theorem values?_copyFields {v : Values} (source : values? a = some v) (target : Attributes) :
    values? (kind.copyFields a target) = some v := by
  have copied {field : String} {d : Datum} (mem : field ∈ kind.fieldNames)
      (there : value? field a = some d) : value? field (kind.copyFields a target) = some d := by
    obtain ⟨w, held, value⟩ := Option.map_eq_some_iff.mp there
    rw [value?, OptionsKind.get?_copyFields_of_mem mem held, Option.map_some, value]
  have ⟨check, tolerance, robust, places⟩ := values?_eq_some_iff.mp source
  exact values?_eq_some_iff.mpr ⟨copied (by decide) check, copied (by decide) tolerance,
    copied (by decide) robust, copied (by decide) places⟩

/-! ## §3 The converter that the values describe -/

/-- **`Values.converter v`** — the converter with the settings `v`. -/
def Values.converter (v : Values) : Converter Float where
  check := .ofDatum v.check
  tolerance := (Numeral.ofDatum v.tolerance).tolerances
  robust := v.robust.truthy
  places := placesOf v.places

end ConverterOptions

/-! ## §4 Runs of a converter -/

namespace Session

open ConverterOptions

variable {s : Session} {made : Attributes} {v : Values} {n : Nat} {who : Owner}

/-- A new converter has the settings that were given, with the check in its final form. -/
theorem values?_configured_startWith (given : values? made = some v)
    (ok : startWith kind made n = .ok s) : values? s.configured = some v.canonical := by
  obtain ⟨-, accepted, -, -, shows⟩ := startWith_eq_ok ok
  rw [configured, configuredAs, shows.get?]
  exact values?_copyFields (values?_settle given accepted) _

/-- Conversions change nothing. -/
theorem converterStep_convert_fst (s : Session) (who : Owner) (x : Converter.Conversion Float) :
    (s.converterStep (.convert who x)).1 = s := by
  rw [converterStep]
  split_ifs <;> rfl

theorem result_converterStep (s : Session) (x : OptionsStep) :
    (s.converterStep (.options x)).2.result = (step kind s x).2.result.map .options := by
  show (ConverterShown.options <$> (step kind s x).2).result = _
  obtain ⟨notices, result⟩ := (step kind s x).2
  cases result <;> rfl

theorem result_converterStep_error_iff {x : OptionsStep} {f : Fault} :
    (s.converterStep (.options x)).2.result = .error f ↔ (step kind s x).2.result = .error f := by
  rw [result_converterStep]
  cases (step kind s x).2.result <;> simp only [Except.map, Except.error.injEq, reduceCtorEq]

theorem result_converterStep_ok_iff {x : OptionsStep} :
    (∃ shown, (s.converterStep (.options x)).2.result = .ok shown) ↔
      ∃ shown, (step kind s x).2.result = .ok shown := by
  rw [result_converterStep]
  cases (step kind s x).2.result <;> simp [Except.map]

/-- **What every allowed change keeps, a run of allowed steps keeps**, and the session stays separate. -/
theorem converterRun_invariant {P : View → Prop} (allowed : OptionsStep → Prop)
    (kept : ∀ v x v', allowed x → P v → Change kind v x v' → P v') {xs : List ConverterStep}
    (all : ∀ x, .options x ∈ xs → allowed x) (separate : s.Separate) (start : P s.view) :
    (s.converterRun xs).Separate ∧ P (s.converterRun xs).view := by
  induction xs generalizing s with
  | nil => exact ⟨separate, start⟩
  | cons x xs ih =>
    have later (y : OptionsStep) (mem : .options y ∈ xs) : allowed y :=
      all y (List.mem_cons_of_mem x mem)
    rw [converterRun, List.foldl_cons]
    cases x with
    | options x =>
      obtain ⟨v', shows, change⟩ := step_change (k := kind) separate.shows x
      refine ih later shows.separate ?_
      show P (step kind s x).1.view
      rw [shows.view]
      exact kept _ x _ (all x List.mem_cons_self) start change
    | convert who x =>
      rw [converterStep_convert_fst]
      exact ih later separate start

/-- **`Reachable s`** — a session of converters that some run of steps leads to. -/
inductive Reachable : Session → Prop
  | made {made : Attributes} {n : Nat} {s : Session} (ok : startWith kind made n = .ok s) :
    Reachable s
  | started {given : Option (List (String × Datum))} {s : Session} (ok : start kind given = .ok s) :
    Reachable s
  | step {s : Session} (before : Reachable s) (x : ConverterStep) : Reachable (s.converterStep x).1

theorem converterStep_separate (separate : s.Separate) (x : ConverterStep) :
    (s.converterStep x).1.Separate := by
  cases x with
  | options x =>
    obtain ⟨v', shows, -⟩ := step_change (k := kind) separate.shows x
    exact shows.separate
  | convert who x =>
    rw [converterStep_convert_fst]
    exact separate

/-- **No two holders of a reachable session have the same object**, and no two attributes in it refer to
one value that can be changed. -/
theorem Reachable.separate (reachable : s.Reachable) : s.Separate := by
  induction reachable with
  | made ok => exact (startWith_eq_ok ok).2.2.2.2.separate
  | @started given s ok =>
    rw [start] at ok
    cases made_eq : kind.make 1 (given.getD []) with
    | error f =>
      rw [made_eq] at ok
      cases ok
    | ok made =>
      rw [made_eq, Fault.ok_bind] at ok
      cases first : startWith kind made ((given.getD []).length + 1) with
      | error f =>
        rw [first] at ok
        cases ok
      | ok s₁ =>
        rw [first, Fault.ok_bind] at ok
        obtain ⟨-, -, -, -, shows⟩ := startWith_eq_ok first
        cases ok
        split
        · exact shows.separate
        · exact (shows.bindBare .options .none).separate
  | step before x separate => exact converterStep_separate separate x

theorem Reachable.run (reachable : s.Reachable) (xs : List ConverterStep) :
    (s.converterRun xs).Reachable := by
  induction xs generalizing s with
  | nil => exact reachable
  | cons x xs ih => exact ih (reachable.step x)

end Session

end FlightAttitude
