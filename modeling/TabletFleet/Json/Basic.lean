import TabletFleet.OrdMap

set_option autoImplicit false

/-! # JSON values

Integers and decimals are different numbers (`1` is not `1.0`), as they are for every reader that
keeps whole numbers exact. The members of an object are listed in ascending key order by every
function of this library that builds one. Equality of values is decidable. -/

namespace TabletFleet

/-- A number: a whole number, or a double given by its bits. The two zeros among the doubles are told
apart, as they are in text. -/
inductive Json.Number where
  | int (value : Int)
  | float (bits : UInt64)
deriving DecidableEq

/-- A JSON value. -/
inductive Json where
  | null
  | bool (b : Bool)
  | number (n : Json.Number)
  | str (s : String)
  | arr (items : List Json)
  | obj (members : List (String × Json))
deriving Inhabited

namespace Json

/-! ## Equality -/

mutual

/-- Whether two values are the same. -/
def same : Json → Json → Bool
  | .null, .null => true
  | .bool a, .bool b => a == b
  | .number a, .number b => a == b
  | .str a, .str b => a == b
  | .arr as, .arr bs => sameItems as bs
  | .obj as, .obj bs => sameMembers as bs
  | _, _ => false

def sameItems : List Json → List Json → Bool
  | [], [] => true
  | a :: as, b :: bs => same a b && sameItems as bs
  | _, _ => false

def sameMembers : List (String × Json) → List (String × Json) → Bool
  | [], [] => true
  | (k, a) :: as, (l, b) :: bs => k == l && same a b && sameMembers as bs
  | _, _ => false

end

mutual

theorem same_iff_eq : ∀ a b : Json, same a b = true ↔ a = b
  | .null, b => by cases b <;> simp [same]
  | .bool _, b => by cases b <;> simp [same]
  | .number _, b => by cases b <;> simp [same]
  | .str _, b => by cases b <;> simp [same]
  | .arr as, b => by cases b <;> simp [same, sameItems_iff_eq as]
  | .obj as, b => by cases b <;> simp [same, sameMembers_iff_eq as]

theorem sameItems_iff_eq : ∀ as bs : List Json, sameItems as bs = true ↔ as = bs
  | [], bs => by cases bs <;> simp [sameItems]
  | a :: as, bs => by cases bs <;> simp [sameItems, same_iff_eq a, sameItems_iff_eq as]

theorem sameMembers_iff_eq :
    ∀ as bs : List (String × Json), sameMembers as bs = true ↔ as = bs
  | [], bs => by cases bs <;> simp [sameMembers]
  | (k, a) :: as, bs => by
    rcases bs with _ | ⟨⟨l, b⟩, bs⟩ <;>
      simp [sameMembers, same_iff_eq a, sameMembers_iff_eq as]

end

instance : DecidableEq Json := fun a b => decidable_of_iff _ (same_iff_eq a b)

/-! ## Building -/

/-- A whole number. -/
def int (n : Int) : Json := .number (.int n)

/-- The object with the entries of a map. -/
def ofMap (m : OrdMap String Json) : Json := .obj m.toList

/-- The object with the given members. -/
def object (members : List (String × Json)) : Json := ofMap (.ofList members)

/-- The object with those of the given members that have a value. -/
def objectOf (members : List (String × Option Json)) : Json :=
  object (members.filterMap fun m => m.2.map (m.1, ·))

/-- A map of texts as an object. -/
def ofStringMap (m : StringMap) : Json := ofMap (m.map fun _ v => .str v)

/-! ## Looking into a value -/

/-- The member of an object with the given key. -/
def get? (j : Json) (key : String) : Option Json :=
  match j with
  | .obj ms => Entries.lookup key ms
  | _ => none

end Json

end TabletFleet
