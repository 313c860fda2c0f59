/-
# FlightAttitude.Proofs.Options.Frame — what a step leaves alone

`Session.OptionsStep.Touches` is a table: for each step, the attributes that it may write, and on which
object. Whatever is not in the table stays (`Session.Change.changedOnly`), an object of which nothing is
in the table stays as a whole, and the source of options that are applied is at most put into its final
form (`Session.Change.get?_source`). This holds of a step that fails as of one that succeeds.

A step that is done to one object reaches no other one, but for the source of its options
(`Session.OptionsStep.WritesTo.eq_of_touches`): the table has no entry for an object that merely holds a
copy.

The table asks of the kind of options which field settling may write (`OptionsKind.SettlesField`).
-/
import FlightAttitude.Proofs.Options.Session

namespace FlightAttitude

/-- **`OptionsKind.SettlesField k field`** — settling writes one of the fields at most. -/
structure OptionsKind.SettlesField (k : OptionsKind) (field : String) : Prop where
  mem : field ∈ k.fieldNames
  only : ∀ a, ∀ e ∈ (k.settling a).1, e.1 = field

/-! ## §1 Views that differ in some attributes -/

namespace View

variable {v v' v'' : View} {h : Holder} {es : List (String × Setting)}

/-- **`settingAt h name v`** — an attribute of the object that a holder has. -/
def settingAt (h : Holder) (name : String) (v : View) : Option Setting :=
  (v.get? h).bind fun a => a.get? name

theorem settingAt_congr {name : String} (same : v' h = v h) :
    v'.settingAt h name = v.settingAt h name := by
  rw [settingAt, settingAt, get?, get?, same]

/-- **`ChangedOnly within v v'`** — `v'` is `v` but for the attributes that are `within`. -/
structure ChangedOnly (within : Holder → String → Prop) (v v' : View) : Prop where
  setting : ∀ h name, ¬ within h name → v'.settingAt h name = v.settingAt h name
  /-- An object without any such attribute is as it was, bare values included. -/
  object : ∀ h, (∀ name, ¬ within h name) → v' h = v h

namespace ChangedOnly

variable {within within' : Holder → String → Prop}

theorem mono (wider : ∀ h name, within h name → within' h name) (change : ChangedOnly within v v') :
    ChangedOnly within' v v' where
  setting h name out := change.setting h name fun touched => out (wider h name touched)
  object h out := change.object h fun name touched => out name (wider h name touched)

theorem refl : ChangedOnly within v v :=
  ⟨fun _ _ _ => rfl, fun _ _ => rfl⟩

theorem trans (first : ChangedOnly within v v') (second : ChangedOnly within v' v'') :
    ChangedOnly within v v'' where
  setting h name out := (second.setting h name out).trans (first.setting h name out)
  object h out := (second.object h out).trans (first.object h out)

/-- Attributes of one object are set, all of which may change. -/
theorem setAll (touched : ∀ e ∈ es, within h e.1) : ChangedOnly within v (v.setAll h es) where
  setting h' name out := by
    by_cases own : h' = h
    · subst own
      have other : name ∉ es.map Prod.fst := fun mem => by
        obtain ⟨e, there, rfl⟩ := List.mem_map.mp mem
        exact out (touched e there)
      cases held : v h' with
      | bare d => exact settingAt_congr (by rw [setAll_self, held, Held.setAll])
      | object cls a =>
        rw [settingAt, settingAt, get?_setAll_self (get?_of_eq held), get?_of_eq held]
        exact Entries.get?_setAll_of_notMem other
    · exact settingAt_congr (setAll_of_ne own es v)
  object h' out := by
    by_cases own : h' = h
    · subst own
      -- then nothing was set
      have none : es = [] := List.eq_nil_iff_forall_not_mem.mpr fun e mem => out e.1 (touched e mem)
      rw [setAll_self, none, Held.setAll_nil]
    · exact setAll_of_ne own es v

/-- A holder is given something else, all of which may change. -/
theorem bind (touched : ∀ name, within h name) (held : Held) :
    ChangedOnly within v (v.bind h held) where
  setting h' name out := by
    have other : h' ≠ h := by
      rintro rfl
      exact out (touched name)
    exact settingAt_congr (bind_of_ne other held v)
  object h' out := by
    have other : h' ≠ h := by
      rintro rfl
      exact out "" (touched "")
    exact bind_of_ne other held v

end ChangedOnly

end View

namespace Session

variable {k : OptionsKind} {v v' : View} {x : OptionsStep} {h who onto : Holder}
  {a : Attributes} {field name : String}

/-! ## §2 The table -/

/-- **`Touches k field v x h name`** — whether the step `x` may write the attribute `name` of the object
`h`, where `field` is the field that settling may write and `v` is what the holders see. -/
def OptionsStep.Touches (k : OptionsKind) (field : String) (v : View) (x : OptionsStep) (h : Holder)
    (name : String) : Prop :=
  match x with
  | .reset who => h = who.kept ∧ name = field ∨ h = who.holder ∧ name ∈ k.fieldNames
  | .keep _ => h = .options ∨ h = .kept
  | .assign who _ => h = who.kept
  | .set who given _ =>
    ∃ cls a, v who = .object cls a ∧
      match Slot.of who cls given with
      | .plain written _ => h = who ∧ name = written
      | .kept whose _ => h = whose.kept
      | .fixed => False
  | .settle who | .fields who => h = who ∧ name = field
  | .apply who onto => h = who ∧ name = field ∨ h = onto ∧ name ∈ k.fieldNames
  | .append who given _ => h = who ∧ name = given
  | .get _ | .write _ | .same _ _ | .identical _ _ _ | .limitDigits _ => False

theorem OptionsStep.touches_source (source : x.source? = some who) :
    x.Touches k field v who field := by
  cases x with
  | reset | apply => cases source; exact .inl ⟨rfl, rfl⟩
  | settle | fields => cases source; exact ⟨rfl, rfl⟩
  | _ => cases source

theorem OptionsStep.touches_destination (destination : x.destination? = some onto)
    (mem : name ∈ k.fieldNames) : x.Touches k field v onto name := by
  cases x with
  | reset | apply => cases destination; exact .inr ⟨rfl, mem⟩
  | _ => cases destination

/-- **`WritesTo h x`** — the step `x` is done to the object of `h`: it sets an attribute of it or adds to
one, settles its options, or applies options to it. -/
def OptionsStep.WritesTo (h : Holder) : OptionsStep → Prop
  | .set who given _ => who = h ∧ ∀ cls whose copied, Slot.of who cls given ≠ .kept whose copied
  | .append who _ _ | .settle who | .fields who => who = h
  | .apply _ onto => onto = h
  | .reset who => who.holder = h
  | _ => False

/-- **What is done to one object reaches no other**, but for the options that are applied to it. -/
theorem OptionsStep.WritesTo.eq_of_touches (writes : x.WritesTo h)
    (notSource : x.source? ≠ some onto) (touches : x.Touches k field v onto name) : onto = h := by
  cases x with
  | set who given value =>
    obtain ⟨rfl, noKept⟩ := writes
    obtain ⟨cls, a, -, slot⟩ := touches
    cases eq : Slot.of who cls given with
    | plain written copied =>
      rw [eq] at slot
      exact slot.1
    | kept whose copied => exact absurd eq (noKept cls whose copied)
    | fixed =>
      rw [eq] at slot
      exact slot.elim
  | append | settle | fields =>
    cases writes
    exact touches.1
  | apply | reset =>
    rcases touches with ⟨rfl, -⟩ | ⟨rfl, -⟩
    · exact absurd rfl notSource
    · exact writes
  | _ => exact writes.elim

/-! ## §3 Steps -/

/-- **What is not in the table stays**, whichever way the step goes. -/
theorem Change.changedOnly (settles : k.SettlesField field) (change : Change k v x v') :
    View.ChangedOnly (x.Touches k field v) v v' := by
  have settled {who : Holder} (source : x.source? = some who) (a : Attributes) :
      View.ChangedOnly (x.Touches k field v) v (v.setAll who (k.settling a).1) :=
    .setAll fun e mem => settles.only a e mem ▸ OptionsStep.touches_source source
  cases change with
  | nothing => exact .refl
  | settled source _ => exact settled source _
  | applied source destination _ _ part =>
    refine (settled source _).trans (.setAll fun e mem => ?_)
    exact OptionsStep.touches_destination destination (OptionsKind.mem_fieldsIn.mp (part e mem)).1
  | made _ => exact .bind (fun _ => .inl rfl) _
  | renewed _ => exact .trans (.bind (fun _ => .inl rfl) _) (.bind (fun _ => .inr rfl) _)
  | assigned => exact .bind (fun _ => rfl) _
  | @wrote who given written value copied cls a n there slot =>
    refine .setAll (List.forall_mem_singleton.mpr ⟨cls, a, there, ?_⟩)
    simp only [slot, and_self]
  | @replaced who given value copied whose cls a there slot =>
    refine .bind (fun name => ⟨cls, a, there, ?_⟩) _
    simp only [slot]
  | appended _ _ => exact .setAll (List.forall_mem_singleton.mpr ⟨rfl, rfl⟩)

/-- **Of the source nothing changes but what settling does**, even where it is its own target. -/
theorem Change.get?_source (change : Change k v x v') (source : x.source? = some who)
    (there : v.get? who = some a) :
    v'.get? who = some a ∨ v'.get? who = some (k.settle a).1 := by
  have same {who' : Holder} {a' : Attributes} (source' : x.source? = some who')
      (there' : v.optionsAt? who' = some a') : who = who' ∧ a = a' := by
    cases source.symm.trans source'
    exact ⟨rfl, Option.some.inj (there.symm.trans (View.get?_of_optionsAt? there'))⟩
  have settled : (v.setAll who (k.settling a).1).get? who = some (k.settle a).1 :=
    View.get?_setAll_self there _
  cases change with
  | nothing => exact .inl there
  | settled source' there' =>
    obtain ⟨rfl, rfl⟩ := same source' there'
    exact .inr settled
  | @applied _ _ onto _ es source' destination there' accepted part =>
    obtain ⟨rfl, rfl⟩ := same source' there'
    right
    by_cases own : who = onto
    · -- the fields of the source are copied to where they are
      subst own
      rw [View.get?_setAll_self settled, OptionsKind.setAll_fieldsIn_eq_self part]
    · rw [View.get?_setAll_of_ne own, settled]
  | made | renewed | assigned | wrote | replaced | appended => cases source

end Session

end FlightAttitude
