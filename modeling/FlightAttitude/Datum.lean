/-
# FlightAttitude.Datum — values of an open kind

A setting may hold a value of any kind, whether it suits the setting or not, and any two values may
be put to a clamp. `Datum` is the kind of all of them. What is defined on it is what the rules for
settings and clamps speak of: how a value is written, whether it counts as true, when two are equal,
which of two comes first, and which values can be copied.

Numbers compare by their exact values, so a whole number and a float are never rounded to meet;
truth values count as zero and one. Texts go by code point, lists and tuples by their first unequal
members. No other two values can be put in order (`Datum.less` then fails), and an undefined number
is neither below, above nor equal to anything.

Two of these can fail. A whole number of very many digits is not written (`Datum.fits`), and a handle
on something outside of the library, such as a lock, cannot be copied (`Datum.copyable`).
-/
import FlightAttitude.AxisOrder
import FlightAttitude.Decimal.Layout
import FlightAttitude.Text.Quoted
import FlightAttitude.UnitCheck

namespace FlightAttitude

/-- **`Datum`** — a value of any kind. -/
inductive Datum where
  | none
  | flag (value : Bool)
  | integer (value : Int)
  | number (value : Float)
  | text (value : String)
  | list (members : List Datum)
  | tuple (members : List Datum)
  | table (rows : List (String × Datum))
  | check (value : UnitCheck)
  | order (value : AxisOrder)
  /-- A handle on something outside of the library, with the text that stands for it. -/
  | handle (name : String)
  deriving Inhabited

namespace Datum

/-! ## §1 Writing -/

/-- **`digitLimit`** — how many digits a whole number may have to be written, unless another limit is set. -/
def digitLimit : Option Nat := some 4300

/-- **`fits limit i`** — whether a whole number keeps within the limit, if there is one. -/
def fits (limit : Option Nat) (i : Int) : Bool :=
  match limit with
  | some digits => i.natAbs < Nat.pow 10 digits
  | Option.none => true

mutual

/-- **`written limit d`** — a value as it stands in a message, unless a whole number in it has too many
digits. -/
def written (limit : Option Nat) : Datum → Option String
  | none => some "None"
  | flag true => some "True"
  | flag false => some "False"
  | integer i => if fits limit i then some (toString i) else Option.none
  | number x => some (numberText x)
  | text s => some (Text.quoted s)
  | list members =>
    (writtenMembers limit members).map fun texts => "[" ++ ", ".intercalate texts ++ "]"
  | tuple [d] => (written limit d).map fun text => "(" ++ text ++ ",)"
  | tuple members =>
    (writtenMembers limit members).map fun texts => "(" ++ ", ".intercalate texts ++ ")"
  | table rows =>
    (writtenRows limit rows).map fun texts => "\x7b" ++ ", ".intercalate texts ++ "\x7d"
  | check c => some ("<UnitQuaternionCheck." ++ c.name ++ ": " ++ toString c.number ++ ">")
  | order o => some ("<AxisOrder." ++ o.name ++ ": " ++ Text.quoted o.letters ++ ">")
  | handle name => some name

/-- The members of a list, each as it stands in a message. -/
def writtenMembers (limit : Option Nat) : List Datum → Option (List String)
  | [] => some []
  | d :: ds =>
    (written limit d).bind fun text => (writtenMembers limit ds).map fun texts => text :: texts

/-- The rows of a table, each as it stands in a message. -/
def writtenRows (limit : Option Nat) : List (String × Datum) → Option (List String)
  | [] => some []
  | (key, d) :: rows =>
    (written limit d).bind fun text =>
      (writtenRows limit rows).map fun texts => (Text.quoted key ++ ": " ++ text) :: texts

end

/-! ## §2 Numbers -/

/-- **`Size`** — the exact value of a number, `m · 2 ^ e` where it is finite. -/
inductive Size where
  | undefined
  | below
  | above
  | finite (m e : Int)
  deriving DecidableEq, Repr

/-- **`Size.ofFloat x`** — the exact value of a float. -/
def Size.ofFloat (x : Float) : Size :=
  match Binary64.ofFloat? x with
  | some v => .finite (if v.negative then -(v.significand : Int) else v.significand) v.exponent
  | Option.none => if x.isNaN then .undefined else if x < 0 then .below else .above

/-- Compares two finite sizes in units of the finer one. -/
def Size.compareFinite (p : Int → Int → Bool) (m e m' e' : Int) : Bool :=
  let k := min e e'
  p (m * Nat.pow 2 (e - k).toNat) (m' * Nat.pow 2 (e' - k).toNat)

/-- **`Size.less a b`** — whether `a` is below `b`. -/
def Size.less : Size → Size → Bool
  | undefined, _ => false
  | _, undefined => false
  | above, _ => false
  | _, below => false
  | below, _ => true
  | _, above => true
  | finite m e, finite m' e' => compareFinite (fun a b => a < b) m e m' e'

/-- **`Size.same a b`** — whether `a` and `b` are one number. -/
def Size.same : Size → Size → Bool
  | below, below => true
  | above, above => true
  | finite m e, finite m' e' => compareFinite (fun a b => a == b) m e m' e'
  | _, _ => false

/-- **`Size.atMost a b`** — whether `a` is below `b` or the same number. -/
def Size.atMost (a b : Size) : Bool :=
  a.less b || a.same b

/-- **`size? d`** — the number that a value is or counts as. -/
def size? : Datum → Option Size
  | flag b => some (.finite (if b then 1 else 0) 0)
  | integer i => some (.finite i 0)
  | number x => some (.ofFloat x)
  | _ => Option.none

/-! ## §3 Equality and order -/

mutual

/-- **`same a b`** — whether two values are equal. -/
def same : Datum → Datum → Bool
  | none, none => true
  | text s, text t => s == t
  | check c, check d => c == d
  | order o, order p => o == p
  | list ds, list es => sameMembers ds es
  | tuple ds, tuple es => sameMembers ds es
  | table rows, table rows' => rows.length == rows'.length && sameRows rows rows'
  | d, e =>
    match d.size?, e.size? with
    | some a, some b => a.same b
    | _, _ => false

/-- Whether two lists are equal, member for member. -/
def sameMembers : List Datum → List Datum → Bool
  | [], [] => true
  | d :: ds, e :: es => same d e && sameMembers ds es
  | _, _ => false

/-- Whether every row of the first table stands in the second. -/
def sameRows : List (String × Datum) → List (String × Datum) → Bool
  | [], _ => true
  | (key, d) :: rows, others =>
    -- rows may stand in any order
    (match others.lookup key with
      | some e => same d e
      | Option.none => false) && sameRows rows others

end

/-- **`Incomparable`** — two values of kinds that have no order between them. -/
structure Incomparable where

mutual

/-- **`less a b`** — whether `a` comes before `b`. -/
def less : Datum → Datum → Except Incomparable Bool
  | text s, text t => .ok (s < t)
  | list ds, list es => lessMembers ds es
  | tuple ds, tuple es => lessMembers ds es
  | d, e =>
    match d.size?, e.size? with
    | some a, some b => .ok (a.less b)
    | _, _ => .error {}

/-- Whether a list comes before another: the first unequal members decide, else the lengths. -/
def lessMembers : List Datum → List Datum → Except Incomparable Bool
  | [], [] => .ok false
  | [], _ :: _ => .ok true
  | _ :: _, [] => .ok false
  | d :: ds, e :: es => if same d e then lessMembers ds es else less d e

end

/-- **`truthy d`** — whether a value counts as true: all but the empty ones and zero do. -/
def truthy : Datum → Bool
  | none => false
  | flag b => b
  | integer i => i != 0
  | number x => !(x == 0)
  | text s => s != ""
  | list members => !members.isEmpty
  | tuple members => !members.isEmpty
  | table rows => !rows.isEmpty
  | check _ => true
  | order _ => true
  | handle _ => true

/-! ## §4 Copies -/

mutual

/-- **`copyable d`** — whether a value can be copied: all but handles can, and what has one inside. -/
def copyable : Datum → Bool
  | list members => copyableMembers members
  | tuple members => copyableMembers members
  | table rows => copyableRows rows
  | handle _ => false
  | _ => true

/-- Whether every member of a list can be copied. -/
def copyableMembers : List Datum → Bool
  | [] => true
  | d :: ds => copyable d && copyableMembers ds

/-- Whether every value of a table can be copied. -/
def copyableRows : List (String × Datum) → Bool
  | [] => true
  | (_, d) :: rows => copyable d && copyableRows rows

end

/-- **`changeable d`** — whether a value can be changed in place. -/
def changeable : Datum → Bool
  | list _ => true
  | table _ => true
  | _ => false

/-- **`takesAttributes d`** — whether attributes can be set on a value: on a unit check or an axis order
they can, which are objects themselves. -/
def takesAttributes : Datum → Bool
  | check _ => true
  | order _ => true
  | _ => false

end Datum

end FlightAttitude
