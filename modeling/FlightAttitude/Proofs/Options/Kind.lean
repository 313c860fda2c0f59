/-
# FlightAttitude.Proofs.Options.Kind — what settling and copying do to the values of an object

Copying sets the fields one by one, and it can stop: at a value that cannot be copied, or at a target
that does not take the attribute. What comes of it is either all of the fields or exactly those before
the one where it stopped (`Held.Copied`). A field that was copied is the source's
(`OptionsKind.get?_copyFields_of_mem`), and all else of the target is as before
(`OptionsKind.get?_copyFields_of_notMem`).

A kind of options is lawful when settling keeps to the fields and is final: options that were accepted
are settled again to themselves (`OptionsKind.Lawful`).

A property of names and values holds of an object when it holds of each of its attributes
(`Attributes.All`). Such properties survive copying, so they can be followed from where a value is
given to every object that it can reach.
-/
import FlightAttitude.Options.Session
import Mathlib.Tactic.ByContra
import Mathlib.Tactic.SplitIfs

namespace FlightAttitude

/-! ## §1 Several attributes set -/

namespace Entries

variable {β : Type} {a : Entries β} {es : List (String × β)} {name : String}

theorem get?_set (name : String) (v : β) (a : Entries β) (other : String) :
    (a.set name v).get? other = if other = name then some v else a.get? other := by
  split_ifs with h
  · rw [h, get?_set_self]
  · exact get?_set_of_ne h v a

theorem isSome_get?_set {other : String} (there : (a.get? other).isSome) (name : String) (v : β) :
    ((a.set name v).get? other).isSome := by
  rw [get?_set]
  split_ifs
  · rfl
  · exact there

theorem get?_setAll_of_notMem (other : name ∉ es.map Prod.fst) :
    (a.setAll es).get? name = a.get? name := by
  induction es generalizing a with
  | nil => rfl
  | cons e es ih =>
    rw [List.map_cons, List.mem_cons, not_or] at other
    rw [setAll_cons, ih other.2, get?_set_of_ne other.1]

/-- What is set is read back, where nothing else is set under the same name. -/
theorem get?_setAll_of_mem {e : String × β} (mem : e ∈ es)
    (one : ∀ d ∈ es, d.1 = e.1 → d.2 = e.2) : (a.setAll es).get? e.1 = some e.2 := by
  induction es generalizing a with
  | nil => cases mem
  | cons d es ih =>
    rw [setAll_cons]
    by_cases later : e ∈ es
    · exact ih later fun d' mem' => one d' (List.mem_cons_of_mem d mem')
    · obtain rfl := (List.mem_cons.mp mem).resolve_right later
      by_cases again : e.1 ∈ es.map Prod.fst
      · obtain ⟨d', mem', same⟩ := List.mem_map.mp again
        have value := one d' (List.mem_cons_of_mem e mem') same
        exact absurd (Prod.ext same value ▸ mem') later
      · rw [get?_setAll_of_notMem again, get?_set_self]

theorem isSome_get?_setAll (there : (a.get? name).isSome) (es : List (String × β)) :
    ((a.setAll es).get? name).isSome := by
  induction es generalizing a with
  | nil => exact there
  | cons e es ih => exact ih (isSome_get?_set there e.1 e.2)

/-- What is there already is set to no effect. -/
theorem setAll_eq_self (there : ∀ e ∈ es, a.get? e.1 = some e.2) : a.setAll es = a := by
  induction es with
  | nil => rfl
  | cons e es ih =>
    obtain ⟨first, later⟩ := List.forall_mem_cons.mp there
    rw [setAll_cons, set_of_get? first, ih later]

end Entries

/-! ## §2 Properties of all attributes -/

namespace Attributes

/-- **`All p a`** — every attribute of `a` has the property `p`. -/
def All (p : String → Datum → Prop) (a : Attributes) : Prop :=
  ∀ name v, a.get? name = some v → p name v.value

variable {p : String → Datum → Prop} {a : Attributes}

theorem all_empty : All p .empty := fun name v there => by
  rw [Entries.get?_empty] at there
  cases there

theorem All.set {name : String} {v : Setting} (all : a.All p) (holds : p name v.value) :
    All p (a.set name v) := by
  intro other w there
  rw [Entries.get?_set] at there
  split_ifs at there with h
  · cases there
    exact h ▸ holds
  · exact all other w there

theorem All.setAll {es : List (String × Setting)} (all : a.All p)
    (each : ∀ e ∈ es, p e.1 e.2.value) : All p (a.setAll es) := by
  induction es generalizing a with
  | nil => exact all
  | cons e es ih =>
    obtain ⟨first, later⟩ := List.forall_mem_cons.mp each
    exact ih (all.set first) later

end Attributes

/-! ## §3 Fields that are copied -/

namespace Held

/-- **`setAll es v`** — attributes of an object set one after the other; a bare value stays. -/
def setAll (es : List (String × Setting)) : Held → Held
  | object cls a => object cls (a.setAll es)
  | bare d => bare d

/-- **`copyEach es v`** — values copied and set one after the other, until one of them cannot be. -/
def copyEach : List (String × Setting) → Held → Held × Except Fault Unit
  | [], v => (v, .ok ())
  | e :: es, v =>
    if e.2.value.copyable then
      if v.takes e.1 then copyEach es (v.setAll [e]) else (v, .error .noAttribute)
    else (v, .error .uncopyable)

/-- **`Accepts v e`** — the value can be copied, and `v` takes it under its name. -/
def Accepts (v : Held) (e : String × Setting) : Prop :=
  e.2.value.copyable = true ∧ v.takes e.1 = true

/-- **`Refuses v e f`** — the value cannot be copied or, if it can, is not taken under its name. -/
inductive Refuses (v : Held) (e : String × Setting) : Fault → Prop
  | uncopyable (handle : e.2.value.copyable = false) : Refuses v e .uncopyable
  | noAttribute (copyable : e.2.value.copyable = true) (refused : v.takes e.1 = false) :
    Refuses v e .noAttribute

/-- **`Stops v es earlier f`** — of the values that are copied to `v` one is refused with the fault `f`,
and those `earlier` are not. -/
def Stops (v : Held) (es earlier : List (String × Setting)) (f : Fault) : Prop :=
  ∃ e later, es = earlier ++ e :: later ∧ (∀ d ∈ earlier, v.Accepts d) ∧ v.Refuses e f

/-- **`Copied es v after`** — what comes of values that are copied to `v`. -/
inductive Copied (es : List (String × Setting)) (v : Held) : Held × Except Fault Unit → Prop
  /-- All of them are set. -/
  | complete (each : ∀ e ∈ es, v.Accepts e) : Copied es v (v.setAll es, .ok ())
  /-- Those before the first that is refused are set, and no others. -/
  | interrupted {earlier : List (String × Setting)} {f : Fault} (stops : v.Stops es earlier f) :
    Copied es v (v.setAll earlier, .error f)

variable {v : Held} {e : String × Setting} {es : List (String × Setting)} {f : Fault}

@[simp] theorem takes_setAll (name : String) (es : List (String × Setting)) (v : Held) :
    (v.setAll es).takes name = v.takes name := by
  cases v <;> rfl

@[simp] theorem setAll_nil (v : Held) : v.setAll [] = v := by
  cases v <;> rfl

theorem setAll_setAll (es es' : List (String × Setting)) (v : Held) :
    (v.setAll es).setAll es' = v.setAll (es ++ es') := by
  cases v with
  | object cls a => simp [setAll, Entries.setAll]
  | bare d => rfl

theorem setAll_cons (e : String × Setting) (es : List (String × Setting)) (v : Held) :
    v.setAll (e :: es) = (v.setAll [e]).setAll es := by
  rw [setAll_setAll, List.singleton_append]

theorem accepts_setAll : (v.setAll es).Accepts e ↔ v.Accepts e := by
  rw [Accepts, Accepts, takes_setAll]

theorem refuses_setAll : (v.setAll es).Refuses e f ↔ v.Refuses e f := by
  constructor
  · rintro (handle | ⟨copyable, refused⟩)
    · exact .uncopyable handle
    · exact .noAttribute copyable (by rwa [takes_setAll] at refused)
  · rintro (handle | ⟨copyable, refused⟩)
    · exact .uncopyable handle
    · exact .noAttribute copyable (by rwa [takes_setAll])

/-- Nothing is both accepted and refused. -/
theorem Accepts.not_refuses (accepts : v.Accepts e) : ¬ v.Refuses e f := by
  rintro (handle | ⟨-, refused⟩)
  · exact absurd (accepts.1.symm.trans handle) (by decide)
  · exact absurd (accepts.2.symm.trans refused) (by decide)

/-- Where it counts what is set, only an object accepts anything. -/
theorem Accepts.exists_object (accepts : v.Accepts e)
    (followed : ∀ d, v = .bare d → d.takesAttributes = false) : ∃ cls a, v = .object cls a := by
  cases v with
  | object cls a => exact ⟨cls, a, rfl⟩
  | bare d => exact absurd (accepts.2.symm.trans (followed d rfl)) (by decide)

/-- It does not stop where everything is accepted. -/
theorem Stops.not_forall_accepts {earlier : List (String × Setting)} (stops : v.Stops es earlier f) :
    ¬ ∀ e ∈ es, v.Accepts e := by
  obtain ⟨e, later, rfl, -, refused⟩ := stops
  exact fun each => (each e (List.mem_append_right _ List.mem_cons_self)).not_refuses refused

theorem stops_cons (accepts : v.Accepts e) {earlier : List (String × Setting)}
    (stops : (v.setAll [e]).Stops es earlier f) : v.Stops (e :: es) (e :: earlier) f := by
  obtain ⟨d, later, split, each, refused⟩ := stops
  refine ⟨d, later, by rw [split, List.cons_append], ?_, refuses_setAll.mp refused⟩
  exact List.forall_mem_cons.mpr ⟨accepts, fun d mem => accepts_setAll.mp (each d mem)⟩

/-- **Copying sets all of the values, or those before the first that is refused.** -/
theorem copied (es : List (String × Setting)) (v : Held) : Copied es v (v.copyEach es) := by
  induction es generalizing v with
  | nil =>
    have all : Copied [] v (v.setAll [], .ok ()) := .complete nofun
    rwa [setAll_nil] at all
  | cons e es ih =>
    have atOnce {f : Fault} (refused : v.Refuses e f) : Copied (e :: es) v (v, .error f) := by
      have none : Copied (e :: es) v (v.setAll [], .error f) :=
        .interrupted ⟨e, es, rfl, nofun, refused⟩
      rwa [setAll_nil] at none
    rw [copyEach]
    split_ifs with copyable taken
    · have accepts : v.Accepts e := ⟨copyable, taken⟩
      generalize after_eq : copyEach es (v.setAll [e]) = after
      cases after_eq ▸ ih (v.setAll [e]) with
      | complete each =>
        rw [← setAll_cons]
        exact .complete (List.forall_mem_cons.mpr ⟨accepts, fun d mem => accepts_setAll.mp (each d mem)⟩)
      | interrupted stops =>
        rw [← setAll_cons]
        exact .interrupted (stops_cons accepts stops)
    · exact atOnce (.noAttribute copyable (Bool.not_eq_true _ ▸ taken))
    · exact atOnce (.uncopyable (Bool.not_eq_true _ ▸ copyable))

/-- It stops in one place only. -/
theorem copyEach_of_stops {earlier : List (String × Setting)} (stops : v.Stops es earlier f) :
    v.copyEach es = (v.setAll earlier, .error f) := by
  obtain ⟨e, later, rfl, each, refused⟩ := stops
  induction earlier generalizing v with
  | nil =>
    rw [List.nil_append, setAll_nil, copyEach]
    rcases refused with handle | ⟨copyable, untaken⟩
    · rw [handle, if_neg Bool.false_ne_true]
    · rw [copyable, if_pos rfl, untaken, if_neg Bool.false_ne_true]
  | cons d earlier ih =>
    obtain ⟨first, others⟩ := List.forall_mem_cons.mp each
    rw [List.cons_append, copyEach, if_pos first.1, if_pos first.2, setAll_cons d earlier v]
    exact ih (fun e mem => accepts_setAll.mpr (others e mem)) (refuses_setAll.mpr refused)

/-- Whichever way it goes, some of the values have been set and nothing else. -/
theorem exists_copyEach_fst (es : List (String × Setting)) (v : Held) :
    ∃ set, (∀ e ∈ set, e ∈ es) ∧ (v.copyEach es).1 = v.setAll set := by
  generalize after_eq : v.copyEach es = after
  cases after_eq ▸ copied es v with
  | complete _ => exact ⟨es, fun _ mem => mem, rfl⟩
  | interrupted stops =>
    obtain ⟨e, later, split, -⟩ := stops
    exact ⟨_, fun _ mem => split ▸ List.mem_append_left _ mem, rfl⟩

end Held

namespace OptionsKind

variable {k : OptionsKind} {a b : Attributes} {name : String}

/-- **`fieldNames k`** — the names of the fields. -/
def fieldNames (k : OptionsKind) : List String := k.fields.map Prod.fst

theorem mem_fieldsIn {β : Type} {k : OptionsKind} {a : Entries β} {e : String × β} :
    e ∈ k.fieldsIn a ↔ e.1 ∈ k.fieldNames ∧ a.get? e.1 = some e.2 := by
  obtain ⟨name, v⟩ := e
  simp only [fieldsIn, fieldNames, List.mem_filterMap, List.mem_map, Option.map_eq_some_iff]
  constructor
  · rintro ⟨d, mem, w, there, same⟩
    cases same
    exact ⟨⟨d, mem, rfl⟩, there⟩
  · rintro ⟨⟨d, mem, rfl⟩, there⟩
    exact ⟨d, mem, v, there, rfl⟩

theorem fieldsIn_map {β γ : Type} (k : OptionsKind) (f : β → γ) (a : Entries β) :
    k.fieldsIn (a.map f) = (k.fieldsIn a).map fun e => (e.1, f e.2) := by
  rw [fieldsIn, fieldsIn, List.map_filterMap]
  congr 1
  funext d
  rw [Entries.get?_map, Option.map_map, Option.map_map]
  rfl

/-- **`copyFields k source target`** — `target` with every field set as it is in `source`. -/
def copyFields (k : OptionsKind) (source target : Attributes) : Attributes :=
  target.setAll (k.fieldsIn source)

theorem get?_copyFields_of_mem (field : name ∈ k.fieldNames) {v : Setting}
    (there : a.get? name = some v) (target : Attributes) :
    (k.copyFields a target).get? name = some v := by
  refine Entries.get?_setAll_of_mem (e := (name, v)) (mem_fieldsIn.mpr ⟨field, there⟩) ?_
  intro d mem same
  have held := (mem_fieldsIn.mp mem).2
  rw [same] at held
  exact Option.some.inj (held.symm.trans there)

theorem get?_copyFields_of_notMem (other : name ∉ k.fieldNames) (source target : Attributes) :
    (k.copyFields source target).get? name = target.get? name := by
  refine Entries.get?_setAll_of_notMem fun mem => other ?_
  obtain ⟨e, field, rfl⟩ := List.mem_map.mp mem
  exact (mem_fieldsIn.mp field).1

/-- Fields that are copied to where they are, be it some of them or all. -/
theorem setAll_fieldsIn_eq_self {es : List (String × Setting)} (part : ∀ e ∈ es, e ∈ k.fieldsIn a) :
    a.setAll es = a :=
  Entries.setAll_eq_self fun e mem => (mem_fieldsIn.mp (part e mem)).2

/-- Copying a second time changes nothing. -/
theorem copyFields_copyFields (k : OptionsKind) (source target : Attributes) :
    k.copyFields source (k.copyFields source target) = k.copyFields source target := by
  refine Entries.setAll_eq_self fun e mem => ?_
  obtain ⟨field, there⟩ := mem_fieldsIn.mp mem
  exact get?_copyFields_of_mem field there target

/-- **`OnlyFields k a`** — the object has no attributes but fields. -/
def OnlyFields (k : OptionsKind) (a : Attributes) : Prop := a.All fun name _ => name ∈ k.fieldNames

theorem OnlyFields.get?_eq_none (only : k.OnlyFields a) (other : name ∉ k.fieldNames) :
    a.get? name = none := by
  by_contra there
  obtain ⟨v, held⟩ := Option.ne_none_iff_exists'.mp there
  exact other (only name v held)

/-! ## §4 Options that are made -/

private theorem all_assign {k : OptionsKind} {p : String → Datum → Prop}
    {given : List (String × Datum)} (each : ∀ e ∈ given, p e.1 e.2) {origin : Nat}
    {a made : Attributes} (all : a.All p) (assigned : k.assign origin given a = .ok made) :
    made.All p := by
  induction given generalizing a origin with
  | nil =>
    cases assigned
    exact all
  | cons e given ih =>
    simp only [assign] at assigned
    split at assigned
    · exact ih (fun e' h => each e' (List.mem_cons_of_mem e h))
        (all.set (v := ⟨e.2, origin⟩) (each e List.mem_cons_self)) assigned
    · cases assigned

private theorem all_foldl_set {p : String → Datum → Prop} {fields : List (String × Datum)}
    (each : ∀ e ∈ fields, p e.1 e.2) {a : Attributes} (all : a.All p) :
    Attributes.All p (fields.foldl (fun a (name, d) => a.set name ⟨d, 0⟩) a) := by
  induction fields generalizing a with
  | nil => exact all
  | cons e fields ih =>
    exact ih (fun e' h => each e' (List.mem_cons_of_mem e h))
      (all.set (v := ⟨e.2, 0⟩) (each e List.mem_cons_self))

theorem all_defaults {k : OptionsKind} {p : String → Datum → Prop}
    (each : ∀ e ∈ k.fields, p e.1 e.2) : k.defaults.All p :=
  all_foldl_set each Attributes.all_empty

/-- Options that are made hold defaults and the values that were given, and nothing else. -/
theorem all_make {k : OptionsKind} {p : String → Datum → Prop} {origin : Nat}
    {given : List (String × Datum)} {made : Attributes} (defaults : ∀ e ∈ k.fields, p e.1 e.2)
    (each : ∀ e ∈ given, p e.1 e.2) (ok : k.make origin given = .ok made) : made.All p :=
  all_assign each (all_defaults defaults) ok

/-! ## §5 Options that are written -/

/-- Options can be written where every field can, whatever the name of their class. -/
theorem isSome_written (k : OptionsKind) (limit : Option Nat) (name : String) (a : Attributes) :
    (k.written limit name a).isSome =
      (k.fieldsIn a).all fun e => (e.2.value.written limit).isSome := by
  simp only [written, Option.isSome_map]
  generalize field_eq : (fun e : String × Setting =>
    (e.2.value.written limit).map fun text => e.1 ++ "=" ++ text) = field
  have each (e : String × Setting) : (e.2.value.written limit).isSome = (field e).isSome := by
    rw [← field_eq, Option.isSome_map]
  induction k.fieldsIn a with
  | nil => rfl
  | cons e es ih =>
    rw [List.mapM_cons, List.all_cons, ← ih, each]
    cases field e with
    | none => rfl
    | some text =>
      generalize es.mapM field = texts
      cases texts <;> rfl

/-! ## §6 Kinds that settle for good -/

/-- **`Lawful k`** — settling keeps to the fields and is final, and no field has the name of an
operation or of a property of the configured object. -/
structure Lawful (k : OptionsKind) : Prop where
  /-- Settling writes fields. -/
  settling_mem : ∀ a, ∀ e ∈ (k.settling a).1, e.1 ∈ k.fieldNames
  /-- Options that were accepted are in their final form. -/
  settle_final : ∀ a, (k.settle a).2 = .ok () → k.settle (k.settle a).1 = ((k.settle a).1, .ok ())
  applyName_notMem : Session.applyName ∉ k.fieldNames
  settleName_notMem : Session.settleName ∉ k.fieldNames
  resetName_notMem : Session.resetName ∉ k.fieldNames
  /-- Fields are attributes like any other. -/
  slot_of_mem : ∀ name ∈ k.fieldNames, ∀ h cls, Session.Slot.of h cls name = .plain name false

/-- Attributes that are no fields stay as they are. -/
theorem Lawful.settle_frame (lawful : k.Lawful) (other : name ∉ k.fieldNames) (a : Attributes) :
    (k.settle a).1.get? name = a.get? name := by
  refine Entries.get?_setAll_of_notMem fun mem => other ?_
  obtain ⟨e, written, rfl⟩ := List.mem_map.mp mem
  exact lawful.settling_mem a e written

/-- No attribute is lost. -/
theorem isSome_get?_settle (k : OptionsKind) {a : Attributes} (there : (a.get? name).isSome) :
    ((k.settle a).1.get? name).isSome :=
  Entries.isSome_get?_setAll there _

end OptionsKind

end FlightAttitude
