import TabletFleet.Document

set_option autoImplicit false

/-! # JSON text

What stands in a JSON text, before any of it is taken for a value. A text may repeat a key, write a
number that is too large for a double, or name half a surrogate pair. A decoder that passes over such a
part does not mind; only `Source.value?`, which asks for a value, does. -/

namespace TabletFleet

/-- A JSON text. -/
inductive Json.Source where
  | null
  | bool (b : Bool)
  /-- A number, unless it is too large. -/
  | number (n : Option Json.Number)
  /-- A text, unless it names half a surrogate pair. -/
  | str (s : Option String)
  | arr (items : List Json.Source)
  /-- Members in the order in which they are written. -/
  | obj (members : List (Option String × Json.Source))
deriving Inhabited

namespace Json.Source

mutual

/-- The value that a text stands for; of several members with one key the last counts. -/
def value? : Source → Option Json
  | .null => some .null
  | .bool b => some (.bool b)
  | .number n => n.map .number
  | .str s => s.map .str
  | .arr items => (itemValues? items).map .arr
  | .obj members => (memberValues? members).map .object

def itemValues? : List Source → Option (List Json)
  | [] => some []
  | s :: ss => do return (← value? s) :: (← itemValues? ss)

def memberValues? : List (Option String × Source) → Option (List (String × Json))
  | [] => some []
  | (k, s) :: ms => do return (← k, ← value? s) :: (← memberValues? ms)

end

mutual

/-- How many arrays and objects stand inside one another. -/
def depth : Source → Nat
  | .arr items => itemsDepth items + 1
  | .obj members => membersDepth members + 1
  | _ => 0

def itemsDepth : List Source → Nat
  | [] => 0
  | s :: ss => max (depth s) (itemsDepth ss)

def membersDepth : List (Option String × Source) → Nat
  | [] => 0
  | (_, s) :: ms => max (depth s) (membersDepth ms)

end

instance : Layered Source := ⟨depth⟩

/-- The members of an object whose keys are all texts. -/
def members? (ms : List (Option String × Source)) : Option (Members Source) :=
  ms.mapM fun m => m.1.map (·, m.2)

/-- A text reads as the value that it stands for would, but one that repeats a field is no record of
the program's own. -/
instance : Document Source where
  isNull
    | .null => true
    | _ => false
  text?
    | .str s => s
    | _ => none
  int?
    | .number (some (.int n)) => some n
    | _ => none
  flag?
    | .bool b => some b
    | _ => none
  word?
    | .str s => s
    | .obj [(k, .null)] => k
    | _ => none
  items?
    | .arr items => some items
    | _ => none
  members?
    | .obj ms => members? ms
    | _ => none
  record? fields
    | .obj ms => (members? ms).filter (Document.givesOnce fields)
    | .arr items => if items.length ≤ fields.length then some (fields.zip items) else none
    | _ => none
  json? := value?

end Json.Source

end TabletFleet
