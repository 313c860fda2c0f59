/-
# FlightAttitude.Report — what a call says on its way

Besides its result a call may give notices: lines for a log, and warnings for its caller. A `Report`
holds them in order, together with the result or the fault that ended the call; notices given before
a fault stay. `Report` is a lawful monad, and a plain `Except Fault` computation is a report that says
nothing.
-/
import FlightAttitude.Fault

namespace FlightAttitude

universe u v

/-! ## §1 Notices -/

/-- **`Notice`** — the things that are said. -/
inductive Notice where
  /-- A quaternion has no finite scale to length one. -/
  | zeroLength
  /-- Two directions do not make a finite orthonormal pair. -/
  | parallelDirections
  /-- The closed form of the facing orientation is not finite. -/
  | undefinedFacing
  /-- A converter was reset; `options` is what it was reset to, in words. -/
  | converterReset (options : String)
  /-- A quaternion that is not of length one is brought to it. -/
  | normalizing
  deriving DecidableEq, Repr

namespace Notice

/-- **`Topic`** — what part of the library speaks. -/
inductive Topic where
  | vectors
  | rotations
  | attitude
  deriving DecidableEq, Repr

/-- **`Level`** — how much a notice matters. -/
inductive Level where
  | debug
  | info
  | warning
  deriving DecidableEq, Repr

/-- **`topic n`** — what part of the library says it. -/
def topic : Notice → Topic
  | zeroLength => .rotations
  | parallelDirections => .vectors
  | undefinedFacing => .rotations
  | converterReset _ => .attitude
  | normalizing => .attitude

/-- **`level n`** — warnings go to the caller, all else to the log. -/
def level : Notice → Level
  | zeroLength => .debug
  | parallelDirections => .debug
  | undefinedFacing => .debug
  | converterReset _ => .info
  | normalizing => .warning

/-- **`text n`** — the words. -/
def text : Notice → String
  | zeroLength => "Attempted to normalize a zero length quaternion"
  | parallelDirections =>
      "Parallel or zero normal and tangent vectors.  The orthonormalized tangent is not finite"
  | undefinedFacing =>
      "The look rotation is undefined for these directions.  Consider robust=True"
  | converterReset options => "Attitude converter reset to " ++ options
  | normalizing => Fault.nonUnitText ++ ".  Normalizing"

end Notice

/-! ## §2 Reports -/

/-- **`Report α`** — notices, then a result or a fault. -/
structure Report (α : Type u) where
  notices : List Notice
  result : Except Fault α

namespace Report

/-- **`ofExcept r`** — a result of which nothing is said. -/
def ofExcept {α : Type u} (r : Except Fault α) : Report α :=
  ⟨[], r⟩

/-- **`say n`** — one notice. -/
def say (n : Notice) : Report PUnit.{u + 1} :=
  ⟨[n], .ok ⟨⟩⟩

/-- **`bind r f`** — `r`, then, unless it failed, `f` on its result. -/
def bind {α : Type u} {β : Type v} (r : Report α) (f : α → Report β) : Report β :=
  match r.result with
  | .ok a => ⟨r.notices ++ (f a).notices, (f a).result⟩
  | .error e => ⟨r.notices, .error e⟩

instance : Monad Report where
  pure a := ofExcept (.ok a)
  bind := bind

instance : MonadLift (Except Fault) Report := ⟨ofExcept⟩

/-- **`fail e`** — nothing but a fault. -/
def fail {α : Type u} (e : Fault) : Report α :=
  ⟨[], .error e⟩

/-- **`sayIf c n`** — one notice, where `c` holds. -/
def sayIf (c : Bool) (n : Notice) : Report PUnit.{u + 1} :=
  if c then say n else ofExcept (.ok ⟨⟩)

/-! ## §3 Reading a report -/

@[simp] theorem bind_ok {α : Type u} {β : Type v} (ns : List Notice) (a : α) (f : α → Report β) :
    bind ⟨ns, .ok a⟩ f = ⟨ns ++ (f a).notices, (f a).result⟩ := rfl

@[simp] theorem bind_error {α : Type u} {β : Type v} (ns : List Notice) (e : Fault)
    (f : α → Report β) : bind ⟨ns, .error e⟩ f = ⟨ns, .error e⟩ := rfl

theorem bind_assoc {α : Type u} {β : Type v} {γ : Type v} (r : Report α) (f : α → Report β)
    (g : β → Report γ) : bind (bind r f) g = bind r fun a => bind (f a) g := by
  obtain ⟨ns, ra⟩ := r
  cases ra with
  | error e => rfl
  | ok a =>
    simp only [bind_ok]
    cases h : (f a).result with
    | error e => simp [bind, h]
    | ok b => simp [bind, h, List.append_assoc]

instance : LawfulMonad Report :=
  .mk' Report
    (fun r => by
      obtain ⟨ns, ra⟩ := r
      cases ra with
      | error e => rfl
      | ok a =>
        change Report.mk (ns ++ []) (.ok a) = ⟨ns, .ok a⟩
        rw [List.append_nil])
    (fun _ _ => rfl)
    (fun r f g => bind_assoc r f g)

/-- A step that says nothing leaves the report to what follows. -/
theorem silent_bind {α β : Type u} (a : α) (f : α → Report β) :
    (⟨[], .ok a⟩ : Report α) >>= f = f a := rfl

theorem result_bind_of_ok {α β : Type u} {r : Report α} {a : α} (h : r.result = .ok a)
    (f : α → Report β) : (r >>= f).result = (f a).result := by
  obtain ⟨ns, ra⟩ := r
  cases h
  rfl

theorem result_sayIf (c : Bool) (n : Notice) : (sayIf.{u} c n).result = .ok ⟨⟩ := by
  cases c <;> rfl

theorem lift_ok_bind {α β : Type u} (a : α) (f : α → Report β) :
    (liftM (Except.ok a : Except Fault α) : Report α) >>= f = f a := rfl

end Report

end FlightAttitude
