import TabletFleet.Cluster.Claim
import TabletFleet.Labels
import TabletFleet.Shard.Status

set_option autoImplicit false

/-! # Shards

The desired state of one shard, as its resource gives it: pools of tablets, and the settings that all
of them share. -/

namespace TabletFleet

/-- The keys that a shard is responsible for; an empty bound is open. -/
structure KeyRange where
  start : String := ""
  stop : String := ""
deriving DecidableEq, Inhabited

namespace KeyRange

/-- `start-stop`. -/
def text (r : KeyRange) : String := r.start ++ "-" ++ r.stop

/-- A form that labels and host names allow: an open bound is `x`. -/
def safeName (r : KeyRange) : String :=
  let bound (b : String) : String := if b.isEmpty then "x" else b
  bound r.start ++ "-" ++ bound r.stop

end KeyRange

/-- Container images. -/
structure TabletImages where
  vttablet : String := ""
  mysqld : Option String := none
deriving DecidableEq, Inhabited

/-- Where the global topology is kept. -/
structure Lockserver where
  implementation : String := ""
  address : String := ""
  rootPath : String := ""
deriving DecidableEq, Inhabited

/-- When changes that need a restart are rolled out. -/
inductive UpdateStrategy where
  /-- When an external driver releases the tablet. -/
  | external
  /-- As soon as they are found. -/
  | immediate
deriving DecidableEq, Inhabited

namespace UpdateStrategy

def name : UpdateStrategy → String
  | .external => "External"
  | .immediate => "Immediate"

def ofName? : String → Option UpdateStrategy
  | "External" => some .external
  | "Immediate" => some .immediate
  | _ => none

theorem ofName?_name (s : UpdateStrategy) : ofName? s.name = some s := by cases s <;> rfl

def ofDocument? {δ : Type} [Document δ] (d : δ) : Option UpdateStrategy :=
  (Document.word? d).bind ofName?

end UpdateStrategy

/-- Settings of the tablet process. -/
structure VttabletSettings where
  extraFlags : StringMap := .empty
  resources : ResourceRequirements := {}
deriving DecidableEq, Inhabited

/-- Settings of the database process. -/
structure MysqldSettings where
  resources : ResourceRequirements := {}
deriving DecidableEq, Inhabited

/-- A number of tablets of one type in one cell. -/
structure TabletPool where
  cell : String
  type : PoolType
  replicas : Int32
  vttablet : VttabletSettings := {}
  mysqld : Option MysqldSettings := none
  /-- What each tablet's data volume is claimed with; without it tablets have none. -/
  dataVolumeClaimTemplate : Option ClaimSpec := none
  backupLocationName : String := ""
  annotations : StringMap := .empty
  extraLabels : StringMap := .empty
  affinity : Option Affinity := none
  tolerations : List Toleration := []
deriving DecidableEq, Inhabited

/-- A place that backups are kept in. -/
structure BackupLocation where
  name : String := ""
  storageRoot : Option String := none
  annotations : StringMap := .empty
deriving DecidableEq, Inhabited

structure ShardSpec where
  /-- The shard's name in the topology service. -/
  name : String
  keyRange : KeyRange := {}
  images : TabletImages := {}
  globalLockserver : Lockserver := {}
  extraVitessFlags : StringMap := .empty
  tabletPools : List TabletPool := []
  backupLocations : List BackupLocation := []
  /-- The availability zone of each cell. -/
  zoneMap : StringMap := .empty
  databaseName : String := ""
  updateStrategy : UpdateStrategy := .external
deriving DecidableEq, Inhabited

/-- A shard resource. -/
structure Shard where
  metadata : ObjectMeta := {}
  spec : ShardSpec
  status : ShardStatus := {}
deriving DecidableEq, Inhabited

namespace Shard

/-- The cluster that the shard belongs to. -/
def clusterName (s : Shard) : String := (s.metadata.label? LabelKey.cluster).getD ""

/-- The keyspace that the shard belongs to. -/
def keyspaceName (s : Shard) : String := (s.metadata.label? LabelKey.keyspace).getD ""

/-- The namespace that the shard's objects live in. -/
def ns (s : Shard) : String := s.metadata.ns.getD "default"

def generation (s : Shard) : Int64 := s.metadata.generation.getD 0

/-- The first backup location of the given name. -/
def backupLocation? (s : Shard) (name : String) : Option BackupLocation :=
  s.spec.backupLocations.find? (·.name == name)

/-- The labels that all tablet objects of the shard carry, and by which they are found. -/
def labels (s : Shard) : StringMap :=
  .ofList [
    (LabelKey.component, LabelKey.tabletComponent), (LabelKey.cluster, s.clusterName),
    (LabelKey.keyspace, s.keyspaceName), (LabelKey.shard, s.spec.keyRange.safeName)]

end Shard

end TabletFleet
