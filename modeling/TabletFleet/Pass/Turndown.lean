import TabletFleet.Cluster.Pod
import TabletFleet.Markers
import TabletFleet.Reconcile.Report
import TabletFleet.Topology

set_option autoImplicit false

/-! # Turning tablets down

An unwanted tablet's pod goes only once it is drained, is known not to be the shard's primary, and
every desired tablet is ready. The gates are passed in this order and the first refusal counts, so a
tablet that is still draining costs no lookup. A data volume claim goes only once the pod at its key is
known to be gone. -/

namespace TabletFleet

/-- Whether a tablet is the primary of its shard. -/
inductive PrimaryCheck where
  | primary
  | notPrimary
  /-- The lookup failed. The tablet may well be the primary. -/
  | unknown
deriving DecidableEq, Inhabited

/-- What the record of a shard says about one of its tablets. -/
def PrimaryCheck.ofRecord (tablet : TabletAlias) (answer : Except TopologyError ShardRecord) :
    PrimaryCheck :=
  match answer with
  | .ok record => if record.primary = some tablet then .primary else .notPrimary
  | .error _ => .unknown

/-- Where the primary of a shard is looked up, and for how long. -/
structure PrimaryLookup (σ : Type) where
  topology : TopologyService σ
  shard : ShardId
  timeout : Duration

namespace PrimaryLookup

variable {σ : Type}

/-- Ask whether a tablet is the primary. What the tablet takes itself for does not count. -/
def check (l : PrimaryLookup σ) (tablet : TabletAlias) : StateM σ PrimaryCheck := do
  return .ofRecord tablet (← l.topology.lookup l.shard l.timeout)

/-- Ask about a tablet whose alias may not be known; without it there is nothing to look up. -/
def check? (l : PrimaryLookup σ) (tablet : Option TabletAlias) : StateM σ PrimaryCheck :=
  match tablet with
  | some tablet => l.check tablet
  | none => pure .unknown

end PrimaryLookup

namespace Turndown

def draining : OrphanStatus :=
  ⟨"Draining", "waiting for the tablet to be drained before turn-down"⟩

def primaryUnknown : OrphanStatus :=
  ⟨"PrimaryUnknown", "unable to determine whether this tablet is the primary"⟩

def primary : OrphanStatus := ⟨"Primary", "this tablet is the primary"⟩

def shardNotHealthy : OrphanStatus :=
  ⟨"ShardNotHealthy", "the remaining, desired tablets in the shard are not all healthy"⟩

def podExists : OrphanStatus :=
  ⟨"PodExists", "not deleting tablet PVC because tablet Pod still exists"⟩

/-- What a drain is requested for. -/
def drainReason : String := "turning down unwanted tablet"

/-- Every desired tablet is ready. -/
def isHealthy (desired : OrdMap String TabletStatus) : Bool :=
  desired.values.all fun t => t.ready == .yes

/-- The verdict on the pod of a drained tablet. -/
def afterDrain (check : PrimaryCheck) (desired : OrdMap String TabletStatus) : Verdict :=
  match check with
  | .unknown => .refuse primaryUnknown
  | .primary => .refuse primary
  | .notPrimary => if isHealthy desired then .allow else .refuse shardNotHealthy

variable {σ : Type}

/-- Decide about the pod of an unwanted tablet, and request a drain if none was requested before. -/
def pod (lookup : PrimaryLookup σ) (tablet : Option TabletAlias)
    (desired : OrdMap String TabletStatus) (p : Pod) : StateM σ (Pod × Verdict) := do
  if p.metadata.drainFinished then
    return (p, afterDrain (← lookup.check? tablet) desired)
  else
    return ({ p with metadata := p.metadata.startDrain drainReason }, .refuse draining)

/-- Decide about an unwanted claim. A pod that cannot be looked up may well exist. -/
def claim (pods : ObjectStore σ Pod) (key : ObjectKey) : StateM σ Verdict := do
  match ← pods.get key with
  | .ok none => return .allow
  | _ => return .refuse podExists

end Turndown

end TabletFleet
