import TabletFleet.Shard.Spec
import TabletFleet.Tablet.Alias

set_option autoImplicit false

/-! # Tablet specifications

What a shard's pools come to: one specification for every requested tablet, in the order of the pools
and of the tablets within each. A specification is complete; nothing about a tablet is looked up in the
shard afterwards. Its identity depends on its place alone, so an edit of one pool leaves the tablets of
the others as they are. -/

namespace TabletFleet.Fnv

/-! ## The FNV-1a hash

The 64-bit FNV-1a hash of a byte string: from a fixed start, each byte is mixed into the low end and
the whole is multiplied by a fixed prime, modulo `2 ^ 64`. -/

/-- The hash of no bytes. -/
def start : UInt64 := 0xcbf29ce484222325

def prime : UInt64 := 0x100000001b3

/-- Mix one byte into a hash. -/
def step (h : UInt64) (b : UInt8) : UInt64 := (h ^^^ b.toUInt64) * prime

/-- The hash of a byte string. -/
def ofBytes (bytes : List UInt8) : UInt64 := bytes.foldl step start

/-- The hash of the UTF-8 bytes of a text. -/
def ofText (s : String) : UInt64 := ofBytes s.toUTF8.data.toList

/-- Both halves of a hash on top of each other. -/
def fold (h : UInt64) : UInt32 := ((h >>> 32) ^^^ (h &&& 0xffffffff)).toUInt32

/-- Sixteen lower-case hexadecimal digits. -/
def hex (h : UInt64) : String :=
  let ds := Nat.toDigits 16 h.toNat
  String.ofList (List.replicate (16 - ds.length) '0' ++ ds)

end TabletFleet.Fnv

namespace TabletFleet

/-- The number of a tablet, from its place in the fleet. -/
def tabletUid (cell keyspace : String) (range : KeyRange) (type : PoolType) (index : Nat) : UInt32 :=
  Fnv.fold (Fnv.ofText
    (cell ++ " " ++ keyspace ++ " " ++ range.text ++ " " ++ type.name ++ " " ++ toString index
      ++ "\n"))

/-- Everything that is to be known about one desired tablet. -/
structure TabletSpec where
  identity : TabletAlias
  /-- The place within the pool, from 1. -/
  index : Nat
  type : PoolType
  keyspace : String
  shardName : String
  keyRange : KeyRange
  databaseName : String
  globalLockserver : Lockserver
  images : TabletImages
  zone : Option String
  extraFlags : StringMap
  resources : ResourceRequirements
  mysqld : Option MysqldSettings
  /-- The labels that identify the tablet. -/
  labels : StringMap
  /-- Labels of the user's choice. -/
  extraLabels : StringMap
  annotations : StringMap
  backupLocation : Option BackupLocation
  /-- What the data volume is claimed with; without it the tablet has none. -/
  claimTemplate : Option ClaimSpec
  /-- The name of the tablet's pod, and of its data volume claim. -/
  name : String
  affinity : Option Affinity
  tolerations : List Toleration
deriving DecidableEq, Inhabited

namespace TabletSpec

/-- The labels of the tablet's objects. Those that identify it win over the user's, because objects
are found by them. -/
def objectLabels (t : TabletSpec) : StringMap := t.extraLabels.merge t.labels

/-- The key of the tablet's objects in a namespace. -/
def key (t : TabletSpec) (ns : String) : ObjectKey := { ns, name := t.name }

end TabletSpec

namespace Shard

/-- What draining a tablet achieves. -/
def drainPurpose : String := "ensure that the tablet is not a primary"

/-- The alias of a pool's tablet. -/
def tabletAlias (s : Shard) (pool : TabletPool) (index : Nat) : TabletAlias where
  cell := pool.cell
  uid := tabletUid pool.cell s.keyspaceName s.spec.keyRange pool.type index

/-- The labels that identify a pool's tablet, on top of those that it shares with others. -/
def tabletLabels (s : Shard) (parentLabels : StringMap) (pool : TabletPool) (index : Nat) :
    StringMap :=
  parentLabels.insertMany [
    (LabelKey.cell, pool.cell), (LabelKey.tabletUid, toString (s.tabletAlias pool index).uid.toNat),
    (LabelKey.tabletType, pool.type.name), (LabelKey.tabletIndex, toString index)]

/-- The annotations of a pool's tablets: the drain marker, the pool's own, and those of its backup
location, later ones over earlier ones. -/
def poolAnnotations (s : Shard) (pool : TabletPool) : StringMap :=
  let own := (OrdMap.ofList [(AnnotationKey.drainSupported, drainPurpose)]).merge pool.annotations
  match s.backupLocation? pool.backupLocationName with
  | none => own
  | some location => own.merge location.annotations

/-- The tablet of a pool with the given index. -/
def tablet (s : Shard) (parentLabels : StringMap) (pool : TabletPool) (index : Nat) :
    TabletSpec where
  identity := s.tabletAlias pool index
  index := index
  type := pool.type
  keyspace := s.keyspaceName
  shardName := s.spec.name
  keyRange := s.spec.keyRange
  databaseName := s.spec.databaseName
  globalLockserver := s.spec.globalLockserver
  images := s.spec.images
  zone := s.spec.zoneMap.get? pool.cell
  extraFlags := s.spec.extraVitessFlags.merge pool.vttablet.extraFlags
  resources := pool.vttablet.resources
  mysqld := pool.mysqld
  labels := s.tabletLabels parentLabels pool index
  extraLabels := pool.extraLabels
  annotations := s.poolAnnotations pool
  backupLocation := s.backupLocation? pool.backupLocationName
  claimTemplate := pool.dataVolumeClaimTemplate
  name := (s.tabletAlias pool index).podName s.clusterName
  affinity := pool.affinity
  tolerations := pool.tolerations

/-- The tablets of a pool; a negative number of replicas counts as none. -/
def poolTablets (s : Shard) (parentLabels : StringMap) (pool : TabletPool) : List TabletSpec :=
  (List.range pool.replicas.toNatClampNeg).map fun i => s.tablet parentLabels pool (i + 1)

/-- The tablets of all pools, carrying the given labels. -/
def tabletsWith (s : Shard) (parentLabels : StringMap) : List TabletSpec :=
  s.spec.tabletPools.flatMap (s.poolTablets parentLabels)

/-- The desired tablets of the shard. -/
def tablets (s : Shard) : List TabletSpec := s.tabletsWith s.labels

end Shard

end TabletFleet
