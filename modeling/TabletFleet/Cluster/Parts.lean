import TabletFleet.Cluster.ObjectMeta
import TabletFleet.Quantity

set_option autoImplicit false

/-! # Parts of objects

What objects of several kinds have in them: the conditions that a pod's or a claim's status reports as true,
false or unknown, and since when; what a container asks for and where it may run. Affinities and
tolerations are carried along in their written form; scheduling is not this program's concern. -/

namespace TabletFleet

/-! ## Conditions -/

/-- A reported condition. Of several with one type the first counts. -/
structure Condition where
  type : String
  status : String
  lastTransitionTime : Option Timestamp := none
  extra : Extra := .empty
deriving DecidableEq, Inhabited

namespace Condition

/-- Reported as true. -/
def isTrue (c : Condition) : Bool := c.status == "True"

/-- The first condition of the given type. -/
def find? (type : String) (conditions : List Condition) : Option Condition :=
  conditions.find? (·.type == type)

def written (c : Condition) : Condition :=
  { c with lastTransitionTime := c.lastTransitionTime.map (·.wholeSeconds) }

theorem written_written (c : Condition) : c.written.written = c.written := by
  cases h : c.lastTransitionTime <;> simp [written, h, Timestamp.wholeSeconds_wholeSeconds]

def toJson (c : Condition) : Json :=
  c.extra.write [
    ("type", some (.str c.type)), ("status", some (.str c.status)),
    ("lastTransitionTime", c.lastTransitionTime.map (.str ·.text))]

def ofDocument? {δ : Type} [Document δ] (d : δ) : Option Condition := do
  let ms ← Document.members? d
  return {
    type := ← Document.orElse ms "type" "" Document.text?
    status := ← Document.orElse ms "status" "" Document.text?
    lastTransitionTime := ← Document.optional ms "lastTransitionTime" ObjectMeta.time?
    extra := ← Shape.readFields Shape.conditionFields ms }

end Condition

/-- Conditions in written form stay as they are. -/
theorem map_written_written (cs : List Condition) :
    (cs.map Condition.written).map Condition.written = cs.map Condition.written := by
  simp [Function.comp_def, Condition.written_written]

/-! ## Resource requirements and scheduling -/

def resourceList? {δ : Type} [Document δ] (d : δ) : Option ResourceList :=
  Document.map? Quantity.ofDocument? d

def ResourceList.toJson (l : ResourceList) : Json := .ofMap (l.map fun _ q => q.toJson)

/-- The resources of a container. -/
structure ResourceRequirements where
  /-- Names of resource claims. -/
  claims : Option (List String) := none
  limits : Option ResourceList := none
  requests : Option ResourceList := none
deriving DecidableEq, Inhabited

namespace ResourceRequirements

def toJson (r : ResourceRequirements) : Json :=
  .objectOf [
    ("claims", r.claims.map fun names => .arr (names.map fun n => .object [("name", .str n)])),
    ("limits", r.limits.map ResourceList.toJson),
    ("requests", r.requests.map ResourceList.toJson)]

def ofDocument? {δ : Type} [Document δ] (d : δ) : Option ResourceRequirements := do
  let claimName? (d : δ) : Option String := do
    Document.orElse (← Document.members? d) "name" "" Document.text?
  let ms ← Document.members? d
  return {
    claims := ← Document.optional ms "claims" (Document.list? claimName?)
    limits := ← Document.optional ms "limits" resourceList?
    requests := ← Document.optional ms "requests" resourceList? }

end ResourceRequirements

/-- Where a pod prefers or has to run, in written form. -/
structure Affinity where
  toJson : Json
deriving DecidableEq, Inhabited

def Affinity.ofDocument? {δ : Type} [Document δ] (d : δ) : Option Affinity :=
  (Shape.affinity.read d).map .mk

/-- A taint that a pod puts up with, in written form. -/
structure Toleration where
  toJson : Json
deriving DecidableEq, Inhabited

def Toleration.ofDocument? {δ : Type} [Document δ] (d : δ) : Option Toleration :=
  (Shape.toleration.read d).map .mk

end TabletFleet
