import TabletFleet.Tablet.Alias
import TabletFleet.Timestamp

set_option autoImplicit false

/-! # The topology service

The service that records which tablet is the primary of each shard. It may be out of reach, and it may
take its time: a lookup that takes longer than its caller is willing to wait fails. -/

namespace TabletFleet

/-- A shard as the topology service knows it. -/
structure ShardId where
  keyspace : String
  shard : String
deriving DecidableEq, Inhabited

namespace ShardId

instance : Ord ShardId :=
  ⟨compareLex (compareOn ShardId.keyspace) (compareOn ShardId.shard)⟩

instance : Std.TransOrd ShardId :=
  inferInstanceAs
    (Std.TransCmp (compareLex (compareOn ShardId.keyspace) (compareOn ShardId.shard)))

instance : Std.LawfulEqOrd ShardId where
  eq_of_compare {a b} h := by
    have h : compareLex (compareOn ShardId.keyspace) (compareOn ShardId.shard) a b = .eq := h
    simp only [compareLex, Ordering.then_eq_eq, compareOn, Std.compare_eq_iff_eq] at h
    cases a; cases b; simp_all

end ShardId

/-- What the service records about a shard. -/
structure ShardRecord where
  primary : Option TabletAlias := none
deriving DecidableEq, Inhabited

/-- Why a lookup gave no record. -/
inductive TopologyError where
  | noRecord (id : ShardId)
  | unavailable
  | timedOut
deriving DecidableEq, Inhabited

def TopologyError.message : TopologyError → String
  | .noRecord id => "no shard record for " ++ id.keyspace ++ "/" ++ id.shard
  | .unavailable => "topology service unavailable: static topo marked unavailable"
  | .timedOut => "topology lookup timed out"

/-- Lookups in a world of type `σ`: the record of a shard, if it comes within the given time. -/
structure TopologyService (σ : Type) where
  lookup : ShardId → Duration → StateM σ (Except TopologyError ShardRecord)

/-- The same lookups in a larger world. -/
def TopologyService.lift {σ τ : Type} (s : TopologyService σ)
    (run : ∀ {α : Type}, StateM σ α → StateM τ α) : TopologyService τ where
  lookup id timeout := run (s.lookup id timeout)

/-! ## Records in memory -/

/-- A topology service whose records are held in memory. -/
structure Topology where
  records : OrdMap ShardId ShardRecord := .empty
  isUnavailable : Bool := false
  /-- How long each lookup takes. -/
  delay : Duration := .zero
deriving DecidableEq, Inhabited

namespace Topology

/-- Record the primary of a shard, or that it has none. -/
def setPrimary (t : Topology) (id : ShardId) (primary : Option TabletAlias) : Topology :=
  { t with records := t.records.insert id { primary } }

/-- The record of a shard. -/
def record (t : Topology) (id : ShardId) : Except TopologyError ShardRecord :=
  if t.isUnavailable then .error .unavailable
  else
    match t.records.get? id with
    | some r => .ok r
    | none => .error (.noRecord id)

/-- Whether lookups answer within the given time. -/
def answersWithin (t : Topology) (timeout : Duration) : Bool :=
  t.delay = .zero || t.delay.nanos < timeout.nanos

/-- Look a shard up, waiting no longer than the given time. -/
def lookup (t : Topology) (id : ShardId) (timeout : Duration) : Except TopologyError ShardRecord :=
  if t.answersWithin timeout then t.record id else .error .timedOut

/-- Lookups leave the world as it is. -/
def service (t : Topology) {σ : Type} : TopologyService σ where
  lookup id timeout := pure (t.lookup id timeout)

end Topology

/-! ## Snapshots

Shard records as a list of entries, from which a topology in memory is made. A later entry for a shard
replaces an earlier one. -/

/-- The record of one shard in a snapshot; the primary is named in text. -/
structure SnapshotEntry where
  keyspace : String
  shard : String
  primary : Option String := none
deriving DecidableEq, Inhabited

def SnapshotEntry.ofDocument? {δ : Type} [Document δ] (d : δ) : Option SnapshotEntry := do
  let ms ← Document.record? ["keyspace", "shard", "primaryAlias"] d
  return {
    keyspace := ← Document.required ms "keyspace" Document.text?
    shard := ← Document.required ms "shard" Document.text?
    primary := ← Document.optional ms "primaryAlias" Document.text? }

namespace Topology

/-- Add the record of an entry. -/
def addEntry (t : Topology) (e : SnapshotEntry) : Except InvalidAlias Topology := do
  let primary ← e.primary.mapM TabletAlias.parse
  return t.setPrimary ⟨e.keyspace, e.shard⟩ primary

/-- The topology of a snapshot; the first text that is no alias spoils all of it. -/
def ofEntries (entries : List SnapshotEntry) : Except InvalidAlias Topology :=
  entries.foldlM addEntry {}

end Topology

end TabletFleet
