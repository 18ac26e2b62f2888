import TabletFleet.Cluster.ManagedObject
import TabletFleet.Cluster.Parts

set_option autoImplicit false

/-! # Volume claims

A claim asks the cluster for a volume of some size and keeps it, whichever pod mounts it. -/

namespace TabletFleet

/-- The size that a claim asks for. -/
structure VolumeResources where
  limits : Option ResourceList := none
  requests : Option ResourceList := none
deriving DecidableEq, Inhabited

structure ClaimSpec where
  resources : Option VolumeResources := none
  extra : Extra := .empty
deriving DecidableEq, Inhabited

structure ClaimStatus where
  phase : Option String := none
  conditions : Option (List Condition) := none
  extra : Extra := .empty
deriving DecidableEq, Inhabited

/-- A persistent volume claim. -/
structure Claim where
  metadata : ObjectMeta := {}
  spec : Option ClaimSpec := none
  status : Option ClaimStatus := none
deriving DecidableEq, Inhabited

namespace VolumeResources

def toJson (r : VolumeResources) : Json :=
  .objectOf [
    ("limits", r.limits.map ResourceList.toJson), ("requests", r.requests.map ResourceList.toJson)]

end VolumeResources

namespace ClaimSpec

/-- The storage that is requested. -/
def requestedStorage? (s : ClaimSpec) : Option Quantity := do
  (← (← s.resources).requests).get? "storage"

/-- Request an amount of storage. -/
def requestStorage (s : ClaimSpec) (size : Quantity) : ClaimSpec :=
  let resources := s.resources.getD {}
  { s with resources := some { resources with
      requests := some ((resources.requests.getD .empty).insert "storage" size) } }

theorem requestedStorage?_requestStorage (s : ClaimSpec) (size : Quantity) :
    (s.requestStorage size).requestedStorage? = some size := by
  simp [requestStorage, requestedStorage?]

def toJson (s : ClaimSpec) : Json := s.extra.write [("resources", s.resources.map (·.toJson))]

end ClaimSpec

namespace ClaimStatus

def written (s : ClaimStatus) : ClaimStatus :=
  { s with conditions := s.conditions.map (·.map Condition.written) }

theorem written_written (s : ClaimStatus) : s.written.written = s.written := by
  cases h : s.conditions <;>
    simp only [written, h, Option.map_none, Option.map_some, map_written_written]

def toJson (s : ClaimStatus) : Json :=
  s.extra.write [
    ("phase", s.phase.map .str),
    ("conditions", s.conditions.map fun cs => .arr (cs.map (·.toJson)))]

end ClaimStatus

namespace Claim

def kind : String := "PersistentVolumeClaim"

def written (c : Claim) : Claim :=
  { c with metadata := c.metadata.wholeSeconds, status := c.status.map (·.written) }

def toJson (c : Claim) : Json :=
  .objectOf (objectHead kind c.metadata ++ [
    ("spec", c.spec.map (·.toJson)), ("status", c.status.map (·.toJson))])

end Claim

section Reading

variable {δ : Type} [Document δ]

def VolumeResources.ofDocument? (d : δ) : Option VolumeResources := do
  let ms ← Document.members? d
  return {
    limits := ← Document.optional ms "limits" resourceList?
    requests := ← Document.optional ms "requests" resourceList? }

def ClaimSpec.ofDocument? (d : δ) : Option ClaimSpec := do
  let ms ← Document.members? d
  return {
    resources := ← Document.optional ms "resources" VolumeResources.ofDocument?
    extra := ← Shape.readFields Shape.claimSpecFields ms }

def ClaimStatus.ofDocument? (d : δ) : Option ClaimStatus := do
  let ms ← Document.members? d
  return {
    phase := ← Document.optional ms "phase" Document.text?
    conditions := ← Document.optional ms "conditions" (Document.list? Condition.ofDocument?)
    extra := ← Shape.readFields Shape.claimStatusFields ms }

def Claim.ofDocument? (d : δ) : Option Claim := do
  let ms ← Document.members? d
  checkKind Claim.kind ms
  return {
    metadata := ← Document.orElse ms "metadata" {} ObjectMeta.ofDocument?
    spec := ← Document.optional ms "spec" ClaimSpec.ofDocument?
    status := ← Document.optional ms "status" ClaimStatus.ofDocument? }

end Reading

instance : ManagedObject Claim where
  kind := Claim.kind
  collection := "persistentvolumeclaims"
  metadata := Claim.metadata
  setMetadata c m := { c with metadata := m }
  written := Claim.written
  toJson := Claim.toJson
  ofDocument? := Claim.ofDocument?
  metadata_setMetadata _ _ := rfl
  setMetadata_metadata _ := rfl
  setMetadata_setMetadata _ _ _ := rfl
  written_setMetadata _ _ := rfl
  written_written c := by
    cases h : c.status <;>
      simp [Claim.written, h, ObjectMeta.wholeSeconds_wholeSeconds, ClaimStatus.written_written]

end TabletFleet
