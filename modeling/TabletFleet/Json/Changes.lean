import TabletFleet.Json.Basic

set_option autoImplicit false

/-! # Changed paths

Where two JSON values differ, told in dotted paths of at most two keys: a difference further down is
reported at its second key. An absent member counts as null, and zeros of both signs are equal. -/

namespace TabletFleet.Json

/-! ## Zeros without sign -/

/-- The number itself, or the zero without sign in place of the one with it. -/
def Number.unsignZero : Json.Number → Json.Number
  | .int n => .int n
  | .float bits => .float (if bits = 0x8000000000000000 then 0 else bits)

mutual

/-- The value without signs on zeros. -/
def unsignZeros : Json → Json
  | .number n => .number n.unsignZero
  | .arr items => .arr (unsignItems items)
  | .obj members => .obj (unsignMembers members)
  | j => j

def unsignItems : List Json → List Json
  | [] => []
  | j :: js => unsignZeros j :: unsignItems js

def unsignMembers : List (String × Json) → List (String × Json)
  | [] => []
  | (k, j) :: ms => (k, unsignZeros j) :: unsignMembers ms

end

/-! ## Differences -/

/-- The member with the given key; null if there is none. -/
def memberOrNull (j : Json) (key : String) : Json := (j.get? key).getD .null

/-- The keys of an object. -/
def keys : Json → List String
  | .obj members => members.map (·.1)
  | _ => []

/-- The paths of at most `depth` keys at which two values differ. -/
def differences : Nat → Json → Json → List (List String)
  | depth, a, b =>
    if a = b then []
    else
      match depth, a, b with
      | depth + 1, .obj as, .obj bs =>
        (keys (.obj as) ++ keys (.obj bs)).flatMap fun k =>
          (differences depth (memberOrNull (.obj as) k) (memberOrNull (.obj bs) k)).map (k :: ·)
      | _, _, _ => [[]]

/-- A path as text: its keys joined by dots, or a lone dot for the value as a whole. -/
def pathText : List String → String
  | [] => "."
  | path => ".".intercalate path

/-- How deep changes are told apart. -/
def changeDepth : Nat := 2

/-- The paths at which two values differ, in ascending order without repetition. -/
def changedPaths (target base : Json) : List String :=
  sortedDistinct ((differences changeDepth target.unsignZeros base.unsignZeros).map pathText)

end TabletFleet.Json
