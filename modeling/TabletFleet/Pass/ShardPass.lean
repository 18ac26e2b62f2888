import TabletFleet.Pass.Strategies
import TabletFleet.Reconcile.ObjectSet
import TabletFleet.Store.Memory
import TabletFleet.Store.Slots

set_option autoImplicit false

/-! # A pass over a shard

One pass brings the data volume claims of a shard's tablets in line with its pools, then the pods, whose
changes depend on the claims, and reports the shard's status anew from what it saw. -/

namespace TabletFleet

/-- What a pass answers. -/
structure PassReport where
  result : PassResult
  status : ShardStatus
deriving DecidableEq, Inhabited

namespace PassInput

variable {σ : Type}

/-- The state in which a pass starts: every desired tablet is entered. -/
def start (input : PassInput σ) (world : σ) : PassState σ :=
  input.shard.tablets.foldl (PassState.addTablet input.shard.ns) { world }

/-- The desired objects of one kind, in the order of the tablets. -/
def objectSet (input : PassInput σ) (tablets : List TabletSpec) : ObjectSet where
  ns := input.shard.ns
  selector := input.shard.labels
  keys := tablets.map (·.key input.shard.ns)
  releaseImmediately := input.shard.spec.updateStrategy = .immediate
  now := input.now

/-- The desired claims: those of the tablets with a data volume. -/
def claimSet (input : PassInput σ) : ObjectSet :=
  input.objectSet (input.shard.tablets.filter (·.claimTemplate.isSome))

/-- The desired pods. -/
def podSet (input : PassInput σ) : ObjectSet := input.objectSet input.shard.tablets

/-- Reconcile one kind of object, and note what went wrong. -/
def phase {K : Type} [ManagedObject K] [DecidableEq K] (store : ObjectStore (PassState σ) K)
    (strategy : Strategy (PassState σ) K) (set : ObjectSet) : StateM (PassState σ) Unit := do
  let outcome ← set.reconcile store strategy
  modify fun s => { s with result := s.result.addOutcome outcome }

/-- Both kinds of objects, claims first. -/
def phases (input : PassInput σ) : StateM (PassState σ) Unit := do
  phase input.cluster.duringPass.claims (claimStrategy input) input.claimSet
  phase input.cluster.duringPass.pods (podStrategy input) input.podSet

/-- What a finished pass answers. -/
def report (s : PassState σ) : PassReport :=
  { result := s.result, status := { s.status with cells := sortedDistinct s.cells } }

/-- One pass. -/
def run (input : PassInput σ) : StateM σ PassReport := fun world =>
  let ((), s) := input.phases (input.start world)
  (report s, s.world)

end PassInput

/-- The stores of a cluster in memory. -/
def Cluster.inMemory : Cluster MemoryStore where
  pods := MemoryStore.calls Pod
  claims := MemoryStore.calls Claim

/-- The same stores, with the objects of both kinds in slots. -/
def Cluster.inSlots : Cluster SlotStore where
  pods := SlotStore.calls Pod
  claims := SlotStore.calls Claim

namespace Shard

/-- What a pass over a cluster is given, with a topology in memory. -/
def inputIn {σ : Type} (shard : Shard) (cluster : Cluster σ) (topology : Topology)
    (config : PassConfig) (now : Timestamp) : PassInput σ :=
  { cluster, topology := topology.service, config, shard, now }

/-- One pass over objects in slots, with a topology in memory. -/
def reconcileInSlots (shard : Shard) (topology : Topology) (config : PassConfig) (now : Timestamp) :
    StateM SlotStore PassReport :=
  PassInput.run (shard.inputIn .inSlots topology config now)

/-- One pass over objects in memory, with a topology in memory. -/
def reconcileAt (shard : Shard) (topology : Topology) (config : PassConfig) (now : Timestamp) :
    StateM MemoryStore PassReport :=
  PassInput.run {
    cluster := .inMemory, topology := topology.service, config, shard, now }

end Shard

end TabletFleet
