/-
# FlightAttitude.Options.Memory — objects that refer to values

An attribute does not hold its value but refers to it. A value that can be changed in place is kept in
a box of its own, so two attributes that refer to one box both show a change to it; any other value is
as good as its copies and is referred to as it is. Objects stand in the memory too, and whoever holds
an object holds its address (`Root`).

Copying is what keeps objects apart. A copied value that can be changed is kept in a new box
(`Memory.duplicate`), and a copied object is a new object with copies of all attributes
(`Memory.duplicateRoot`). Either fails where something in it cannot be copied. What lies in the members
of a list or the rows of a table is not referred to from anywhere else, and is copied with them.
-/
import FlightAttitude.Options.Attributes
import FlightAttitude.Fault

namespace FlightAttitude

/-! ## §1 Objects -/

/-- **`ObjectClass`** — the classes of objects. -/
inductive ObjectClass where
  /-- The class that is configured. -/
  | configured
  /-- The class of its options. -/
  | options
  /-- No class of its own. -/
  | plain
  /-- A class whose objects take no attributes but these. -/
  | slotted (names : List String)
  deriving DecidableEq, Repr

namespace ObjectClass

/-- **`hasOperations c`** — whether objects of the class have the operations of options: a configured
object has them as well as its options. -/
def hasOperations : ObjectClass → Bool
  | configured => true
  | options => true
  | plain => false
  | slotted _ => false

/-- **`takes name c`** — whether an attribute of this name can be set on objects of the class. -/
def takes (name : String) : ObjectClass → Bool
  | slotted names => names.contains name
  | _ => true

end ObjectClass

/-- **`Ref`** — what an attribute refers to: a value, or the box that a changeable value is kept in. -/
inductive Ref where
  | value (v : Setting)
  | box (address : Nat)

/-- **`Ref.identical r r'`** — whether two attributes refer to one and the same value. -/
def Ref.identical : Ref → Ref → Bool
  | value v, value w => v.identical w
  | box i, box j => i == j
  | _, _ => false

/-- **`Object`** — an object with what its attributes refer to. -/
structure Object where
  cls : ObjectClass
  attributes : Entries Ref

/-- **`Held`** — an object with the values of its attributes, or a bare value in its place. -/
inductive Held where
  | object (cls : ObjectClass) (a : Attributes)
  | bare (d : Datum)

namespace Held

/-- **`object? v`** — the attributes of an object. -/
def object? : Held → Option Attributes
  | object _ a => some a
  | bare _ => none

/-- **`options? v`** — the attributes of an object that has the operations of options. -/
def options? : Held → Option Attributes
  | object cls a => if cls.hasOperations then some a else none
  | bare _ => none

/-- **`takes name v`** — whether an attribute of this name can be set on it. What is set on a bare value
is not followed. -/
def takes (name : String) : Held → Bool
  | object cls _ => cls.takes name
  | bare d => d.takesAttributes

/-- **`copyable v`** — whether it can be copied with all that is in it. -/
def copyable : Held → Bool
  | object _ a => a.entries.all fun e => e.2.value.copyable
  | bare d => d.copyable

end Held

/-- **`Root`** — what a holder has: the address of an object, or a bare value. -/
inductive Root where
  | object (address : Nat)
  | bare (d : Datum)

/-! ## §2 The memory -/

/-- **`Memory`** — the objects and the boxes that were made so far, each found by its number. -/
structure Memory where
  objects : List Object
  boxes : List Setting

namespace Memory

/-- **`empty`** — a memory with nothing in it. -/
def empty : Memory := ⟨[], []⟩

/-- **`fetch m r`** — the value that is referred to. -/
def fetch (m : Memory) : Ref → Setting
  | .value v => v
  | .box n => (m.boxes[n]?).getD ⟨.none, 0⟩

/-- **`ref? m i name`** — what an attribute of an object refers to. -/
def ref? (m : Memory) (i : Nat) (name : String) : Option Ref :=
  (m.objects[i]?).bind fun o => o.attributes.get? name

/-- **`refs m root`** — what the attributes of an object refer to. -/
def refs (m : Memory) : Root → Entries Ref
  | .bare _ => .empty
  | .object i =>
    match m.objects[i]? with
    | some o => o.attributes
    | none => .empty

/-- **`read m root`** — what a holder has, with the values of all attributes. -/
def read (m : Memory) : Root → Held
  | .bare d => .bare d
  | .object i =>
    match m.objects[i]? with
    | some o => .object o.cls (o.attributes.map m.fetch)
    | none => .bare .none

/-! ## §3 Writing -/

/-- **`hold v m`** — the value `v` kept in the memory, where it needs to be. -/
def hold (v : Setting) (m : Memory) : Memory × Ref :=
  if v.value.changeable then ({ m with boxes := m.boxes ++ [v] }, .box m.boxes.length)
  else (m, .value v)

/-- **`refer i name r m`** — an attribute of an object made to refer to `r`. -/
def refer (i : Nat) (name : String) (r : Ref) (m : Memory) : Memory :=
  { m with objects := m.objects.modify i fun o => { o with attributes := o.attributes.set name r } }

/-- **`write i name v m`** — an attribute of an object set to a value that nothing else refers to. -/
def write (i : Nat) (name : String) (v : Setting) (m : Memory) : Memory :=
  (m.hold v).1.refer i name (m.hold v).2

/-- **`writeAll i es m`** — several attributes written, one after the other. -/
def writeAll (i : Nat) (es : List (String × Setting)) (m : Memory) : Memory :=
  es.foldl (fun m e => m.write i e.1 e.2) m

/-- **`change n v m`** — what is kept in a box changed in place. -/
def change (n : Nat) (v : Setting) (m : Memory) : Memory :=
  { m with boxes := m.boxes.set n v }

/-- **`new cls m`** — a new object of a class, at the end of the memory. -/
def new (cls : ObjectClass) (m : Memory) : Memory :=
  { m with objects := m.objects ++ [⟨cls, .empty⟩] }

/-- **`create cls a m`** — a new object with the attributes `a`, and its address. -/
def create (cls : ObjectClass) (a : Attributes) (m : Memory) : Memory × Nat :=
  ((m.new cls).writeAll m.objects.length a.entries, m.objects.length)

/-! ## §4 Copying -/

/-- **`duplicate r m`** — a copy of the value that is referred to. -/
def duplicate (r : Ref) (m : Memory) : Except Fault (Memory × Ref) :=
  if (m.fetch r).value.copyable then .ok (m.hold (m.fetch r)) else .error .uncopyable

/-- **`duplicateRoot root m`** — a copy of an object or of a bare value. -/
def duplicateRoot (root : Root) (m : Memory) : Except Fault (Memory × Root) :=
  if (m.read root).copyable then
    match m.read root with
    | .bare d => .ok (m, .bare d)
    | .object cls a => .ok ((m.create cls a).1, .object (m.create cls a).2)
  else .error .uncopyable

/-- **`setAttribute root name r m`** — an attribute made to refer to `r`, where it can be set. -/
def setAttribute (root : Root) (name : String) (r : Ref) (m : Memory) : Except Fault Memory :=
  if (m.read root).takes name then
    match root with
    | .object i => .ok (m.refer i name r)
    | .bare _ => .ok m
  else .error .noAttribute

/-- **`copyOnto root es m`** — copies of what is referred to, set on the target one after the other.
What was set before a fault stays set. -/
def copyOnto (root : Root) : List (String × Ref) → Memory → Memory × Except Fault Unit
  | [], m => (m, .ok ())
  | (name, r) :: rest, m =>
    match m.duplicate r with
    | .error f => (m, .error f)
    | .ok (m, copy) =>
      match m.setAttribute root name copy with
      | .error f => (m, .error f)
      | .ok m => copyOnto root rest m

end Memory

end FlightAttitude
