/-
# FlightAttitude.Proofs.Options.Start — the objects that a session begins with

A configured object is made by applying options to it and keeping a copy of them for a reset. Where that
can be done, the options were accepted and can be copied, and they stand in their final form both with
the one who gave them and in the copy (`Session.construct_eq_ok`). A new session has two such objects,
made one after the other in a memory that was empty, so it is separate from the start
(`Session.startWith_eq_ok`).
-/
import FlightAttitude.Proofs.Options.Apply

namespace FlightAttitude.Session

variable {k : OptionsKind} {s s' : Session} {v : View} {h : Holder} {a : Attributes}

/-! ## §1 A configured object -/

section Configured

variable {whose : Owner} {cls : ObjectClass} (shows : s.Shows v) (source : v h = .object cls a)
  (operations : cls.hasOperations = true) (ne : h ≠ whose.holder)

include shows source operations ne

/-- Options that were applied to a new object are all that it has. -/
theorem applied_to_new
    (done : (applyTo k h whose.holder (s.give whose.holder .configured .empty)).2 = .ok ()) :
    (k.settle a).2 = .ok () ∧
      (applyTo k h whose.holder (s.give whose.holder .configured .empty)).1.Shows
        ((v.bind whose.holder (.object .configured (k.copyFields (k.settle a).1 .empty))).bind h
          (.object cls (k.settle a).1)) := by
  have new := shows.give whose.holder .configured .empty
  have there : (v.bind whose.holder (.object .configured .empty)).optionsAt? h = some a :=
    View.optionsAt?_eq_some_iff.mpr ⟨cls, (View.bind_of_ne ne _ v).trans source, operations⟩
  obtain ⟨v', shows', applied, -⟩ := new.applied (k := k) there ne.symm
  obtain ⟨accepted, -, target⟩ := applied.of_ok done ne.symm
  have view : v' = (v.bind whose.holder (.object .configured
      (k.copyFields (k.settle a).1 .empty))).bind h (.object cls (k.settle a).1) := by
    -- the giver's options are settled, the new object has their fields, the rest is as before
    funext h'
    by_cases self : h' = h
    · rw [self, View.bind_self, applied.source ne.symm, View.bind_of_ne ne, source]
      rfl
    · rw [View.bind_of_ne self]
      by_cases own : h' = whose.holder
      · rw [own, View.bind_self, target, View.bind_self]
        rfl
      · rw [View.bind_of_ne own, applied.third self own, View.bind_of_ne own]
  exact ⟨accepted, view ▸ shows'⟩

/-- A configured object that could be made. -/
theorem construct_eq_ok (ok : construct k whose h s = .ok s') :
    (k.settle a).2 = .ok () ∧ (∀ e ∈ (k.settle a).1.entries, e.2.value.copyable = true) ∧
      s'.Shows (((v.bind whose.holder
          (.object .configured (k.copyFields (k.settle a).1 .empty))).bind h
        (.object cls (k.settle a).1)).bind whose.kept (.object cls (k.settle a).1)) := by
  have applied := applied_to_new (k := k) shows source operations ne
  rw [construct] at ok
  generalize applyTo k h whose.holder (s.give whose.holder .configured .empty) = after at ok applied
  obtain ⟨s₁, result⟩ := after
  cases result with
  | error f => cases ok
  | ok =>
    obtain ⟨accepted, shows₁⟩ := applied rfl
    simp only at ok shows₁
    rcases shows₁.keepAt whose h with ⟨copyable, kept, shows'⟩ | ⟨-, failed⟩
    · rw [View.bind_self] at shows'
      rw [copyableAt, Bool.and_eq_true, shows₁.held, View.bind_self] at copyable
      generalize keepAt whose h s₁ = after at ok kept shows'
      obtain ⟨s₂, done⟩ := after
      cases kept
      cases ok
      exact ⟨accepted, List.all_eq_true.mp copyable.1, shows'⟩
    · rw [failed] at ok
      cases ok

end Configured

/-! ## §2 A session -/

/-- **`newView k made`** — what the holders of a new session see. -/
def newView (k : OptionsKind) (made : Attributes) : View
  | .configured => .object .configured (k.copyFields (k.settle made).1 .empty)
  | .other => .object .configured (k.copyFields (k.settle k.defaults).1 .empty)
  | .options => .object .options (k.settle made).1
  | .kept => .object .options (k.settle made).1
  | .otherKept => .object .options (k.settle k.defaults).1
  | .target => .object .plain .empty

theorem separate_blank (n : Nat) : (blank n).Separate :=
  ⟨Memory.separate_empty, nofun, nofun⟩

/-- A new session is separate, and both converters have the settings of their options. -/
theorem startWith_eq_ok {made : Attributes} {writes : Nat} (ok : startWith k made writes = .ok s) :
    made.Callable ∧ (k.settle made).2 = .ok () ∧ (k.settle k.defaults).2 = .ok () ∧
      (∀ e ∈ (k.settle made).1.entries, e.2.value.copyable = true) ∧ s.Shows (newView k made) := by
  unfold startWith at ok
  split_ifs at ok with hidden
  simp only [Bool.or_eq_true, not_or, Option.not_isSome_iff_eq_none] at hidden
  have caller := (separate_blank writes).shows.give .options .options made
  cases first : construct k .configured .options ((blank writes).give .options .options made) with
  | error f =>
    rw [first] at ok
    cases ok
  | ok s₁ =>
    obtain ⟨accepted, copyable, shows₁⟩ :=
      construct_eq_ok caller (View.bind_self ..) rfl (by decide) first
    have defaults := shows₁.give .otherKept .options k.defaults
    rw [first, Fault.ok_bind] at ok
    cases second : construct k .other .otherKept (s₁.give .otherKept .options k.defaults) with
    | error f =>
      rw [second] at ok
      cases ok
    | ok s₂ =>
      obtain ⟨acceptedDefaults, -, shows₂⟩ :=
        construct_eq_ok defaults (View.bind_self ..) rfl (by decide) second
      rw [second, Fault.ok_bind] at ok
      cases ok
      have plain := shows₂.give .target .plain .empty
      refine ⟨hidden, accepted, acceptedDefaults, copyable, plain.separate, plain.view.trans ?_⟩
      funext h
      cases h <;> rfl

/-- To make a configured object from values that are given is to make it from the options with them. -/
theorem start_some {given : List (String × Datum)} {made : Attributes}
    (ok : k.make 1 given = .ok made) :
    start k (some given) = startWith k made (given.length + 1) := by
  rw [start, Option.getD_some, ok, Fault.ok_bind]
  cases startWith k made (given.length + 1) <;> rfl

end FlightAttitude.Session
