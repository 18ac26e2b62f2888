import TabletFleet.Cluster.Claim
import TabletFleet.Cluster.Pod
import TabletFleet.Reconcile.Report
import TabletFleet.Store.Basic
import TabletFleet.Tablet.Spec
import TabletFleet.Text.Numeral
import TabletFleet.Topology

set_option autoImplicit false

/-! # The state of a pass

What the steps of a pass over one shard share. It lives for one pass; what has to last longer is kept
in the annotations of the objects. How long a pass may take is settled before it starts. -/

namespace TabletFleet

/-! ## Settings -/

/-- How long a pass and its lookups may take. -/
structure PassConfig where
  /-- The deadline of a whole pass. -/
  reconcileTimeout : Duration := .ofSeconds 60
  /-- The most that one topology lookup may take. -/
  topologyTimeout : Duration := .ofSeconds 5
deriving DecidableEq, Inhabited

namespace PassConfig

/-- The environment variable for the deadline of a pass, in seconds. -/
def reconcileVariable : String := "VTSHARD_RECONCILE_TIMEOUT_SECS"

/-- The environment variable for the limit of a lookup, in milliseconds. -/
def topologyVariable : String := "VTSHARD_TOPO_TIMEOUT_MS"

/-- The settings that the environment asks for. Variables that are missing or make no sense leave the
default. -/
def ofEnvironment (env : String → Option String) : PassConfig :=
  let number? (name : String) : Option Nat := ((env name).bind Numeral.uint64?).map (·.toNat)
  let standard : PassConfig := {}
  {
    reconcileTimeout :=
      ((number? reconcileVariable).map Duration.ofSeconds).getD standard.reconcileTimeout
    topologyTimeout :=
      ((number? topologyVariable).map Duration.ofMillis).getD standard.topologyTimeout }

/-- How long the lookup of the primary may take: at most a quarter of the pass. -/
def lookupTimeout (c : PassConfig) : Duration := c.topologyTimeout.shorter c.reconcileTimeout.quarter

end PassConfig

/-- The stores of the two kinds of objects that tablets are made of. -/
structure Cluster (σ : Type) where
  pods : ObjectStore σ Pod
  claims : ObjectStore σ Claim

/-- What a pass is given. -/
structure PassInput (σ : Type) where
  cluster : Cluster σ
  topology : TopologyService σ
  config : PassConfig
  shard : Shard
  now : Timestamp

/-- What a pass has come to so far, in a world of type `σ`. -/
structure PassState (σ : Type) where
  world : σ
  /-- The desired tablets by the key of their objects. -/
  tablets : OrdMap ObjectKey TabletSpec := .empty
  status : ShardStatus := {}
  /-- The cells that have a tablet, in no particular order. -/
  cells : List String := []
  result : PassResult := {}

namespace PassState

variable {σ α : Type}

/-- Act on the world. -/
def onWorld (act : StateM σ α) : StateM (PassState σ) α := fun s =>
  let (a, world) := act s.world
  (a, { s with world })

/-- Change the status of the tablet at a key, if there is one. -/
def modifyTablet (s : PassState σ) (key : ObjectKey) (f : TabletStatus → TabletStatus) :
    PassState σ :=
  match s.tablets.get? key with
  | none => s
  | some t => { s with status := { s.status with tablets := s.status.tablets.modify t.identity.text f } }

/-- Enter a desired tablet. It has a status from now on, even if nothing is found of it. -/
def addTablet (ns : String) (s : PassState σ) (t : TabletSpec) : PassState σ :=
  { s with
    tablets := s.tablets.insert (t.key ns) t
    cells := t.identity.cell :: s.cells
    status := { s.status with
      tablets := s.status.tablets.insert t.identity.text
        { type := t.type, index := Int32.ofNat t.index } } }

end PassState

namespace Cluster

variable {σ : Type}

/-- The same stores during a pass. -/
def duringPass (c : Cluster σ) : Cluster (PassState σ) where
  pods := c.pods.lift PassState.onWorld
  claims := c.claims.lift PassState.onWorld

end Cluster

end TabletFleet
