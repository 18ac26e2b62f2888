import TabletFleet.Json.Basic
import TabletFleet.Text.Numeral

set_option autoImplicit false

/-! # Documents

What a decoder sees of the document that it reads. JSON and YAML differ in what counts as a number, as
absent or as a record, and agree in everything that a decoder asks: is this a text, a number, a list,
a record? A decoder written against `Document` reads both.

A document may give a member twice. Then all values that are given have to be readable, and the last one
counts; only where a record of fixed fields says so is a second value refused. -/

namespace TabletFleet

/-- The members of a map or a record as they are written. -/
abbrev Members (δ : Type) := List (String × δ)

/-- Documents of type `δ` can be read as texts, numbers, lists, maps and records. Each reader answers
`none` when the document is something else. -/
class Document (δ : Type) where
  /-- Stands for the absence of an optional value. -/
  isNull : δ → Bool
  text? : δ → Option String
  int? : δ → Option Int
  flag? : δ → Option Bool
  /-- The name of an alternative that carries no data. -/
  word? : δ → Option String
  items? : δ → Option (List δ)
  /-- The members of a map, or of a record whose fields may be given twice. -/
  members? : δ → Option (Members δ)
  /-- The members of a record that has the given fields, in declaration order, and gives none of them
  twice. -/
  record? : List String → δ → Option (Members δ)
  json? : δ → Option Json

namespace Document

variable {δ : Type} [Document δ] {α : Type}

/-- A whole number from `lo` to `hi`. -/
def intIn? (lo hi : Int) (d : δ) : Option Int := (int? d).filter fun n => lo ≤ n && n ≤ hi

def int32? (d : δ) : Option Int32 := (intIn? minInt32 maxInt32 d).map Int32.ofInt

def int64? (d : δ) : Option Int64 := (intIn? minInt64 maxInt64 d).map Int64.ofInt

def uint16? (d : δ) : Option UInt16 := (intIn? 0 (UInt16.size - 1) d).map fun n => .ofNat n.toNat

def uint32? (d : δ) : Option UInt32 := (intIn? 0 (UInt32.size - 1) d).map fun n => .ofNat n.toNat

def uint64? (d : δ) : Option UInt64 := (intIn? 0 (UInt64.size - 1) d).map fun n => .ofNat n.toNat

/-- A list whose items are all read. -/
def list? (read : δ → Option α) (d : δ) : Option (List α) := (items? d).bind (·.mapM read)

/-- A map whose values are all read. -/
def map? (read : δ → Option α) (d : δ) : Option (OrdMap String α) := do
  let entries ← (← members? d).mapM fun m => (read m.2).map (m.1, ·)
  return .ofList entries

/-- A map of texts. -/
def stringMap? (d : δ) : Option StringMap := map? text? d

/-! ## Fields -/

/-- The values that are given for a field, in the order in which they are written. -/
def given (ms : Members δ) (name : String) : List δ := (ms.filter (·.1 == name)).map (·.2)

/-- None of the given fields has two values. -/
def givesOnce (fields : List String) (ms : Members δ) : Bool :=
  fields.all fun name => (given ms name).length ≤ 1

/-- A field, if it is there. All values that are given for it are read, and the last one counts. -/
def field? (ms : Members δ) (name : String) (read : δ → Option α) : Option (Option α) :=
  ((given ms name).mapM read).map (·.getLast?)

/-- A field that must be there. -/
def required (ms : Members δ) (name : String) (read : δ → Option α) : Option α :=
  (field? ms name read).join

/-- A field that may be absent or null. -/
def optional (ms : Members δ) (name : String) (read : δ → Option α) : Option (Option α) :=
  (field? ms name fun d => if isNull d then some none else (read d).map some).map (·.join)

/-- A field with a value for its absence; null is not absence. -/
def defaulted (ms : Members δ) (name : String) (absent : α) (read : δ → Option α) : Option α :=
  (field? ms name read).map (·.getD absent)

/-- A field with a value for absence and null alike. -/
def orElse (ms : Members δ) (name : String) (absent : α) (read : δ → Option α) : Option α :=
  (optional ms name read).map (·.getD absent)

end Document

/-! ## JSON as documents -/

/-- A JSON value reads as what it is. A record may also be written as the list of its fields' values in
declaration order, of which the last ones may be missing, and an alternative without data as an object
with that one null member. -/
instance : Document Json where
  isNull j := j = .null
  text?
    | .str s => some s
    | _ => none
  int?
    | .number (.int n) => some n
    | _ => none
  flag?
    | .bool b => some b
    | _ => none
  word?
    | .str s => some s
    | .obj [(k, .null)] => some k
    | _ => none
  items?
    | .arr items => some items
    | _ => none
  members?
    | .obj ms => some ms
    | _ => none
  record? fields
    | .obj ms => if Document.givesOnce fields ms then some ms else none
    | .arr items => if items.length ≤ fields.length then some (fields.zip items) else none
    | _ => none
  json? j := some j

/-! ## Reading with a limit on nesting

Formats limit how deep lists and maps may stand inside one another, so that hostile texts cannot
exhaust a reader. The limit holds for what a decoder looks at: a part that it passes over may be nested
as deep as it likes. `Nested` is a document together with the number of levels that may still be
entered. -/

/-- Documents that can tell how many lists and maps stand inside one another in them. -/
class Layered (δ : Type) where
  depth : δ → Nat

/-- A document that is read with a limit. -/
structure Nested (δ : Type) where
  /-- How many lists and maps may still be entered, one inside the other. -/
  levels : Nat
  part : δ
deriving Inhabited

namespace Nested

variable {δ : Type}

/-- How the parts of a list or a map are read, if it may be entered. -/
def enter? (n : Nested δ) : Option (δ → Nested δ) :=
  match n.levels with
  | 0 => none
  | levels + 1 => some fun part => { levels, part }

/-- The members of a part, if it may be entered. -/
def enterMembers? (n : Nested δ) (ms? : Option (Members δ)) : Option (Members (Nested δ)) := do
  let enter ← n.enter?
  return (← ms?).map fun m => (m.1, enter m.2)

/-- All of it may be entered. -/
def isWithin [Layered δ] (n : Nested δ) : Bool := Layered.depth n.part ≤ n.levels

end Nested

instance {δ : Type} [Document δ] [Layered δ] : Document (Nested δ) where
  isNull n := Document.isNull n.part
  text? n := Document.text? n.part
  int? n := Document.int? n.part
  flag? n := Document.flag? n.part
  word? n := if n.isWithin then Document.word? n.part else none
  items? n := do
    let enter ← n.enter?
    return (← Document.items? n.part).map enter
  members? n := n.enterMembers? (Document.members? n.part)
  record? fields n := n.enterMembers? (Document.record? fields n.part)
  json? n := if n.isWithin then Document.json? n.part else none

end TabletFleet
