import TabletFleet.Document

set_option autoImplicit false

/-! # Shard status

What a pass over a shard reports: for every desired tablet how it is doing, and for every unwanted one
that is kept, why. A status is built anew by every pass. -/

namespace TabletFleet

/-- The type of the tablets of a pool. -/
inductive PoolType where
  | replica
  | rdonly
  | externalPrimary
  | externalReplica
  | externalRdonly
deriving DecidableEq, Inhabited

namespace PoolType

def name : PoolType → String
  | .replica => "replica"
  | .rdonly => "rdonly"
  | .externalPrimary => "externalprimary"
  | .externalReplica => "externalreplica"
  | .externalRdonly => "externalrdonly"

/-- The type that a tablet registers with when it starts. -/
def initName : PoolType → String
  | .replica | .externalPrimary | .externalReplica => "replica"
  | .rdonly | .externalRdonly => "rdonly"

def ofName? : String → Option PoolType
  | "replica" => some .replica
  | "rdonly" => some .rdonly
  | "externalprimary" => some .externalPrimary
  | "externalreplica" => some .externalReplica
  | "externalrdonly" => some .externalRdonly
  | _ => none

theorem ofName?_name (t : PoolType) : ofName? t.name = some t := by cases t <;> rfl

def ofDocument? {δ : Type} [Document δ] (d : δ) : Option PoolType :=
  (Document.word? d).bind ofName?

end PoolType

/-- True, false or not known. -/
inductive ConditionStatus where
  | yes
  | no
  | unknown
deriving DecidableEq, Inhabited

namespace ConditionStatus

def ofBool (b : Bool) : ConditionStatus := if b then .yes else .no

def name : ConditionStatus → String
  | .yes => "True"
  | .no => "False"
  | .unknown => "Unknown"

def ofName? : String → Option ConditionStatus
  | "True" => some .yes
  | "False" => some .no
  | "Unknown" => some .unknown
  | _ => none

theorem ofName?_name (s : ConditionStatus) : ofName? s.name = some s := by cases s <;> rfl

def ofDocument? {δ : Type} [Document δ] (d : δ) : Option ConditionStatus :=
  (Document.word? d).bind ofName?

end ConditionStatus

/-- How a desired tablet is doing. -/
structure TabletStatus where
  type : PoolType
  index : Int32
  running : ConditionStatus := .unknown
  ready : ConditionStatus := .unknown
  available : ConditionStatus := .unknown
  dataVolumeBound : ConditionStatus := .unknown
  /-- The changes that wait for a restart; empty if there are none. -/
  pendingChanges : String := ""
  lastError : Option String := none
deriving DecidableEq, Inhabited

/-- Why an unwanted object is kept for now. -/
structure OrphanStatus where
  reason : String
  message : String
deriving DecidableEq, Inhabited

structure ShardStatus where
  /-- Cells with a desired or a kept tablet, in ascending order. -/
  cells : List String := []
  /-- By alias. -/
  tablets : OrdMap String TabletStatus := .empty
  /-- By alias, or by pod name where the alias is not known. -/
  orphanedTablets : OrdMap String OrphanStatus := .empty
  /-- The lowest shard generation that a pod was updated for; 0 if none is known. -/
  lowestPodGeneration : Int64 := 0
deriving DecidableEq, Inhabited

namespace ShardStatus

/-- Take a pod's generation into account. Zero means that none was seen yet. -/
def observeGeneration (s : ShardStatus) (g : Int64) : ShardStatus :=
  if s.lowestPodGeneration = 0 ∨ g < s.lowestPodGeneration then
    { s with lowestPodGeneration := g }
  else s

end ShardStatus

/-! ## Writing

A status is written with sorted members like everything else, or with its members in the order in
which they are declared, for people to read; `build` decides. -/

namespace TabletStatus

def write (build : List (String × Json) → Json) (s : TabletStatus) : Json :=
  build ([
    ("type", .str s.type.name), ("index", .int s.index.toInt),
    ("running", .str s.running.name), ("ready", .str s.ready.name),
    ("available", .str s.available.name), ("dataVolumeBound", .str s.dataVolumeBound.name)]
    ++ (if s.pendingChanges.isEmpty then [] else [("pendingChanges", .str s.pendingChanges)])
    ++ (match s.lastError with
      | none => []
      | some e => [("lastError", .str e)]))

end TabletStatus

namespace OrphanStatus

def write (build : List (String × Json) → Json) (s : OrphanStatus) : Json :=
  build [("reason", .str s.reason), ("message", .str s.message)]

end OrphanStatus

namespace ShardStatus

def write (build : List (String × Json) → Json) (s : ShardStatus) : Json :=
  build [
    ("cells", .arr (s.cells.map .str)),
    ("tablets", .ofMap (s.tablets.map fun _ t => t.write build)),
    ("orphanedTablets", .ofMap (s.orphanedTablets.map fun _ o => o.write build)),
    ("lowestPodGeneration", .int s.lowestPodGeneration.toInt)]

def toJson (s : ShardStatus) : Json := s.write .object

/-- The status with its members in the order of their declaration. -/
def listing (s : ShardStatus) : Json := s.write .obj

end ShardStatus

/-! ## Reading -/

section Reading

variable {δ : Type} [Document δ]

def TabletStatus.ofDocument? (d : δ) : Option TabletStatus := do
  let ms ← Document.record? ["type", "index", "running", "ready", "available", "dataVolumeBound",
    "pendingChanges", "lastError"] d
  return {
    type := ← Document.required ms "type" PoolType.ofDocument?
    index := ← Document.required ms "index" Document.int32?
    running := ← Document.required ms "running" ConditionStatus.ofDocument?
    ready := ← Document.required ms "ready" ConditionStatus.ofDocument?
    available := ← Document.required ms "available" ConditionStatus.ofDocument?
    dataVolumeBound := ← Document.required ms "dataVolumeBound" ConditionStatus.ofDocument?
    pendingChanges := ← Document.defaulted ms "pendingChanges" "" Document.text?
    lastError := ← Document.optional ms "lastError" Document.text? }

def OrphanStatus.ofDocument? (d : δ) : Option OrphanStatus := do
  let ms ← Document.record? ["reason", "message"] d
  return {
    reason := ← Document.required ms "reason" Document.text?
    message := ← Document.required ms "message" Document.text? }

def ShardStatus.ofDocument? (d : δ) : Option ShardStatus := do
  let ms ← Document.record? ["cells", "tablets", "orphanedTablets", "lowestPodGeneration"] d
  return {
    cells := ← Document.defaulted ms "cells" [] (Document.list? Document.text?)
    tablets := ← Document.defaulted ms "tablets" .empty
      (Document.map? TabletStatus.ofDocument?)
    orphanedTablets := ← Document.defaulted ms "orphanedTablets" .empty
      (Document.map? OrphanStatus.ofDocument?)
    lowestPodGeneration := ← Document.defaulted ms "lowestPodGeneration" 0 Document.int64? }

end Reading

end TabletFleet
