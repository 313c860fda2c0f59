/-
# FlightAttitude.Options.Session — objects that share options, and what can be done with them

A session holds two configured objects of one class, the options that each of them keeps for its next
reset, the caller's options object, and a plain object. All of them lie in one memory, and the session
says which object each holder has. Options travel between them by copying: at construction, when the
kept options are assigned, when options are applied, and at a reset. A copy can fail, and so can an
attribute that is set on an object that does not take it.

Where options are expected a bare value may stand instead: the caller need not have options, and any
value may be set as the kept options. A bare value can be written, compared and copied, and nothing
else.

Each step gives the session after it and a report. A step that fails keeps what it had changed before
the fault. An attribute that has the name of an operation hides it, and a step that calls a hidden
operation fails before it changes anything (`Session.step`); all else that a step does is said by
`Session.perform`.
-/
import FlightAttitude.Options.Kind
import FlightAttitude.Options.Memory

namespace FlightAttitude

/-! ## §1 The holders -/

/-- **`Holder`** — those who hold the objects of a session. -/
inductive Holder where
  /-- The configured object. -/
  | configured
  /-- A second object of the same class, made with default options. -/
  | other
  /-- The caller's options object. -/
  | options
  /-- The options that the configured object keeps for a reset. -/
  | kept
  /-- The options that the second object keeps for a reset. -/
  | otherKept
  /-- A plain object, without attributes at first. -/
  | target
  deriving DecidableEq, Repr

/-- **`Owner`** — the two configured objects. -/
inductive Owner where
  | configured
  | other
  deriving DecidableEq, Repr

/-- **`Owner.holder who`** — who holds the configured object itself. -/
def Owner.holder : Owner → Holder
  | configured => .configured
  | other => .other

/-- **`Owner.kept who`** — who holds the options that it keeps. -/
def Owner.kept : Owner → Holder
  | configured => .kept
  | other => .otherKept

/-- **`Holder.owner? h`** — the configured object that is held there, if one is. -/
def Holder.owner? : Holder → Option Owner
  | configured => some .configured
  | other => some .other
  | _ => none

/-- **`Session`** — a memory, and what each holder has in it. -/
structure Session where
  memory : Memory
  root : Holder → Root
  /-- How many values have been written so far. -/
  writes : Nat
  /-- How many digits a whole number may have to be written, if there is a limit. -/
  limit : Option Nat

namespace Session

/-- **`held h s`** — what a holder has: the object with its values, or a bare value. -/
def held (h : Holder) (s : Session) : Held := s.memory.read (s.root h)

/-- **`get? h s`** — the attributes of the object that a holder has, if it has one. -/
def get? (h : Holder) (s : Session) : Option Attributes := (s.held h).object?

/-- **`configuredAs who s`** — the attributes of one of the configured objects. -/
def configuredAs (who : Owner) (s : Session) : Attributes := (s.get? who.holder).getD .empty

/-- **`configured s`** — the attributes of the configured object. -/
def configured (s : Session) : Attributes := s.configuredAs .configured

/-- **`optionsAt? h s`** — the attributes of an object that has the operations of options. -/
def optionsAt? (h : Holder) (s : Session) : Option Attributes := (s.held h).options?

/-- **`refs h s`** — what the attributes of an object refer to. -/
def refs (h : Holder) (s : Session) : Entries Ref := s.memory.refs (s.root h)

/-- **`bind h root s`** — the holder `h` given another object or a bare value. -/
def bind (h : Holder) (root : Root) (s : Session) : Session :=
  { s with root := fun h' => if h' = h then root else s.root h' }

/-! ## §2 Names with a meaning -/

/-- **`settleName`** — the name of the operation that puts options into their final form. -/
def settleName : String := "override_options"

/-- **`applyName`** — the name of the operation that applies options to an object. -/
def applyName : String := "apply_options"

/-- **`resetName`** — the name of the operation that resets the configured object. -/
def resetName : String := "reset_settings"

/-- **`fieldsName`** — the name of the attribute that is computed from the fields of options. -/
def fieldsName : String := "options_dict"

/-- **`keptName`** — the name under which the kept options of a configured object are replaced by a copy
of what is assigned. -/
def keptName : String := "original_options"

/-- **`storedName`** — the name under which they are stored. -/
def storedName : String := "_original_options"

/-- **`Slot`** — what it means to set an attribute. -/
inductive Slot where
  /-- An attribute is set, to the value itself or to a copy of it. -/
  | plain (name : String) (copied : Bool)
  /-- The kept options of a configured object are replaced, by the value itself or by a copy of it. -/
  | kept (who : Owner) (copied : Bool)
  /-- The attribute is computed, and cannot be set. -/
  | fixed

/-- **`Slot.of h cls name`** — what it means to set the attribute `name` of the object of class `cls` that
`h` holds. -/
def Slot.of (h : Holder) (cls : ObjectClass) (name : String) : Slot :=
  if name = fieldsName then
    if h.owner?.isSome || cls.hasOperations then .fixed else .plain name false
  else if name = keptName then
    match h.owner? with
    | some who => .kept who true
    -- a copy of a configured object has kept options too, which nothing reads
    | none => if cls = .configured then .plain storedName true else .plain name false
  else if name = storedName then
    match h.owner? with
    | some who => .kept who false
    | none => .plain name false
  else .plain name false

/-! ## §3 Operations -/

/-- **`writeAt h es s`** — attributes of the object that a holder has, written one after the other. -/
def writeAt (h : Holder) (es : List (String × Setting)) (s : Session) : Session :=
  match s.root h with
  | .object i => { s with memory := s.memory.writeAll i es }
  | .bare _ => s

/-- **`settleAt k h s`** — the options of an object put into their final form. -/
def settleAt (k : OptionsKind) (h : Holder) (s : Session) : Session × Except Fault Unit :=
  match s.optionsAt? h with
  | none => (s, .error .noAttribute)
  | some a => (s.writeAt h (k.settling a).1, (k.settling a).2)

/-- **`copyTo k h h' s`** — the fields of one object copied to another. -/
def copyTo (k : OptionsKind) (h h' : Holder) (s : Session) : Session × Except Fault Unit :=
  let (m, done) := s.memory.copyOnto (s.root h') (k.fieldsIn (s.refs h))
  ({ s with memory := m }, done)

/-- **`applyTo k h h' s`** — the options of one object applied to another. -/
def applyTo (k : OptionsKind) (h h' : Holder) (s : Session) : Session × Except Fault Unit :=
  match settleAt k h s with
  | (s, .error f) => (s, .error f)
  | (s, .ok ()) => copyTo k h h' s

/-- **`copyableAt h s`** — whether what a holder has can be copied. With a configured object the options
that it keeps are copied, too. -/
def copyableAt (h : Holder) (s : Session) : Bool :=
  (s.held h).copyable && h.owner?.all fun who => (s.held who.kept).copyable

/-- **`keepAt who h s`** — a copy of what `h` holds kept as the options of a configured object. -/
def keepAt (who : Owner) (h : Holder) (s : Session) : Session × Except Fault Unit :=
  if s.copyableAt h then
    match s.memory.duplicateRoot (s.root h) with
    | .error f => (s, .error f)
    | .ok (m, root) => ({ s with memory := m }.bind who.kept root, .ok ())
  else (s, .error .uncopyable)

/-- **`setAt h field value s`** — an attribute of an object set. -/
def setAt (h : Holder) (field : String) (value : Datum) (s : Session) :
    Session × Except Fault Unit :=
  match s.held h with
  | .bare d => (s, if d.takesAttributes then .ok () else .error .noAttribute)
  | .object cls _ =>
    match Slot.of h cls field with
    | .fixed => (s, .error .fixedAttribute)
    | .kept who copied =>
      if copied && !value.copyable then (s, .error .uncopyable)
      else ({ s with writes := s.writes + 1 }.bind who.kept (.bare value), .ok ())
    | .plain name copied =>
      if copied && !value.copyable then (s, .error .uncopyable)
      else if cls.takes name then
        ({ s with writes := s.writes + 1 }.writeAt h [(name, ⟨value, s.writes⟩)], .ok ())
      else (s, .error .noAttribute)

/-! ## §4 New sessions -/

/-- **`give h cls a s`** — the holder `h` given a new object with the attributes `a`. -/
def give (h : Holder) (cls : ObjectClass) (a : Attributes) (s : Session) : Session :=
  { s with memory := (s.memory.create cls a).1 }.bind h (.object (s.memory.create cls a).2)

/-- **`construct k who h s`** — a new configured object made from the options that `h` holds. Making it
applies the options, which are settled by that, and keeps a copy of them for a reset. -/
def construct (k : OptionsKind) (who : Owner) (h : Holder) (s : Session) : Except Fault Session :=
  match applyTo k h who.holder (s.give who.holder .configured .empty) with
  | (_, .error f) => .error f
  | (s, .ok ()) =>
    match keepAt who h s with
    | (_, .error f) => .error f
    | (s, .ok ()) => .ok s

/-- **`blank writes`** — a session before anything is made in it. -/
def blank (writes : Nat) : Session where
  memory := .empty
  root := fun _ => .bare .none
  writes := writes
  limit := Datum.digitLimit

/-- **`startWith k made writes`** — a session whose configured object is made from the options object
`made`, after so many writes. The second one is made from default options, which only it has. -/
def startWith (k : OptionsKind) (made : Attributes) (writes : Nat) : Except Fault Session :=
  if (made.get? applyName).isSome || (made.get? settleName).isSome then .error .hiddenOperation
  else do
    let s ← construct k .configured .options ((blank writes).give .options .options made)
    let s ← construct k .other .otherKept (s.give .otherKept .options k.defaults)
    return s.give .target .plain .empty

/-- **`start k given`** — a session whose configured object is made from options with the given values,
or from the default ones. The caller then has no options object. -/
def start (k : OptionsKind) (given : Option (List (String × Datum))) : Except Fault Session := do
  let made ← k.make 1 (given.getD [])
  let s ← startWith k made ((given.getD []).length + 1)
  return if given.isSome then s else s.bind .options (.bare .none)

/-! ## §5 Steps -/

/-- **`OptionsStep`** — what can be done with the objects of a session. -/
inductive OptionsStep where
  /-- Applies the kept options to a configured object. -/
  | reset (who : Owner)
  /-- Makes options with the given values, gives them to the caller, and keeps a copy. -/
  | keep (given : List (String × Datum))
  /-- Assigns what a holder has as the kept options of a configured object, which keeps a copy. -/
  | assign (who : Owner) (whom : Holder)
  /-- Shows the attributes of an object. -/
  | get (who : Holder)
  /-- Sets an attribute, whatever the value. -/
  | set (who : Holder) (field : String) (value : Datum)
  /-- Puts the options of an object into their final form. -/
  | settle (who : Holder)
  /-- Puts the options of an object into their final form and shows its fields. -/
  | fields (who : Holder)
  /-- Applies the options of one object to another. -/
  | apply (who onto : Holder)
  /-- Writes an object. -/
  | write (who : Holder)
  /-- Tells whether two objects are of one class and agree in every field. -/
  | same (who whom : Holder)
  /-- Adds a member at the end of the list that an attribute refers to. -/
  | append (who : Holder) (field : String) (value : Datum)
  /-- Tells whether attributes of two objects refer to one and the same value. -/
  | identical (who whom : Holder) (field : String)
  /-- Limits the digits of whole numbers that are written, or lifts the limit. -/
  | limitDigits (limit : Option Nat)

/-- **`Shown`** — what a step shows. -/
inductive Shown where
  | attributes (a : Attributes)
  | text (s : String)
  | flag (b : Bool)
  | nothing

/-- The name of a class that has the operations of options. -/
def className (k : OptionsKind) : ObjectClass → String
  | .configured => k.configuredName
  | _ => k.optionsName

/-- The session after a step, and the report of what it shows or of its fault. -/
abbrev After := Session × Report Shown

/-- **`shownAt h s`** — the attributes of an object, where there is one to show them of. -/
def shownAt (h : Holder) (s : Session) : Except Fault Shown :=
  match s.get? h with
  | some a => .ok (.attributes a)
  | none => .error .noObject

/-- What a step shows that ends with the attributes of an object. -/
def showing (h : Holder) : Session × Except Fault Unit → After
  | (s, .ok ()) => (s, .ofExcept (s.shownAt h))
  | (s, .error f) => (s, .fail f)

/-- A step that changes nothing. -/
def reading (s : Session) (r : Except Fault Shown) : After :=
  (s, .ofExcept r)

/-- A text, where it could be written. -/
def legible : Option String → Except Fault String
  | some text => .ok text
  | none => .error .tooManyDigits

/-- **`writtenAt k h s`** — what a holder has, as it stands in a message. -/
def writtenAt (k : OptionsKind) (h : Holder) (s : Session) : Except Fault String :=
  match s.held h with
  | .bare d => legible (d.written s.limit)
  | .object cls a =>
    if cls.hasOperations then legible (k.written s.limit (className k cls) a)
    else .error .noAttribute

/-- What an attribute refers to that has to be there. -/
def refAt (h : Holder) (field : String) (s : Session) : Except Fault Ref :=
  match (s.refs h).get? field with
  | some r => .ok r
  | none => .error .noAttribute

/-- **`appendAt h field value s`** — a member added to the list that an attribute refers to, in place. -/
def appendAt (h : Holder) (field : String) (value : Datum) (s : Session) :
    Session × Except Fault Unit :=
  match (s.refs h).get? field with
  | some (.box n) =>
    match s.memory.fetch (.box n) with
    | ⟨.list members, origin⟩ =>
      ({ s with memory := s.memory.change n ⟨.list (members ++ [value]), origin⟩ }, .ok ())
    | _ => (s, .error .noAttribute)
  | _ => (s, .error .noAttribute)

/-- **`resetOf k who s`** — a configured object reset. What is said of it shows the kept options in their
final form; where they cannot be written, the reset is done when it fails. -/
def resetOf (k : OptionsKind) (who : Owner) (s : Session) : After :=
  match applyTo k who.kept who.holder s with
  | (s, .error f) => (s, .fail f)
  | (s, .ok ()) =>
    match k.resetNotice with
    | none => showing who.holder (s, .ok ())
    | some notice =>
      match s.writtenAt k who.kept with
      | .error f => (s, .fail f)
      | .ok text => (s, ⟨[notice text], s.shownAt who.holder⟩)

/-- **`perform k s x`** — what the step `x` does where it calls no hidden operation. -/
def perform (k : OptionsKind) (s : Session) : OptionsStep → After
  | .reset who => resetOf k who s
  | .keep given =>
    match k.make s.writes given with
    | .error f => (s, .fail f)
    | .ok a =>
      let s := { s with writes := s.writes + given.length }.give .options .options a
      showing .configured (keepAt .configured .options s)
  | .assign who whom => showing who.holder (keepAt who whom s)
  | .get who => reading s (s.shownAt who)
  | .set who field value => showing who (setAt who field value s)
  | .settle who => showing who (settleAt k who s)
  | .fields who =>
    match settleAt k who s with
    | (s, .error f) => (s, .fail f)
    | (s, .ok ()) => reading s (.ok (.attributes (k.fieldsOf ((s.get? who).getD .empty))))
  | .apply who onto => showing onto (applyTo k who onto s)
  | .write who => reading s ((s.writtenAt k who).map .text)
  | .same who whom =>
    reading s <| .ok <| .flag <|
      who = whom ||
        match s.held who, s.held whom with
        | .object cls a, .object cls' b => cls.hasOperations && cls == cls' && k.same a b
        | .bare d, .bare e => d.same e
        | _, _ => false
  | .append who field value => showing who (appendAt who field value s)
  | .identical who whom field =>
    reading s do
      let r ← refAt who field s
      let r' ← refAt whom field s
      return .flag (who = whom || r.identical r')
  | .limitDigits limit => ({ s with limit := limit }, .ofExcept (.ok .nothing))

/-- The operations that applying the options of an object calls. Only an object that has them goes on to
settle its options. -/
def applyCalls (s : Session) (h : Holder) : List (Holder × String) :=
  (h, applyName) :: if (s.optionsAt? h).isSome then [(h, settleName)] else []

/-- **`OptionsStep.calls s x`** — the operations that a step calls, each with the object it is looked up
on. -/
def OptionsStep.calls (s : Session) : OptionsStep → List (Holder × String)
  | .reset who => (who.holder, resetName) :: s.applyCalls who.kept
  | .settle who => [(who, settleName)]
  | .fields who => if (s.optionsAt? who).isSome then [(who, settleName)] else []
  | .apply who _ => s.applyCalls who
  | _ => []

/-- **`hides s c`** — whether an object has an attribute with the name of the operation that is called. -/
def hides (s : Session) (c : Holder × String) : Bool :=
  ((s.get? c.1).bind fun a => a.get? c.2).isSome

/-- **`step k s x`** — the step `x`. -/
def step (k : OptionsKind) (s : Session) (x : OptionsStep) : After :=
  if (x.calls s).any s.hides then (s, .fail .hiddenOperation) else perform k s x

end Session

end FlightAttitude
