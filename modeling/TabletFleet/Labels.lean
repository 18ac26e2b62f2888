import TabletFleet.OrdMap

set_option autoImplicit false

/-! # Labels and annotations

The keys that this program writes on the objects it manages, and selection by labels. The label keys
are also what live objects are found by. -/

namespace TabletFleet

namespace LabelKey

def component : String := "planetscale.com/component"
def cluster : String := "planetscale.com/cluster"
def keyspace : String := "planetscale.com/keyspace"
def shard : String := "planetscale.com/shard"
def cell : String := "planetscale.com/cell"
def tabletUid : String := "planetscale.com/tablet-uid"
def tabletType : String := "planetscale.com/tablet-type"
def tabletIndex : String := "planetscale.com/tablet-index"

/-- The component that every tablet object belongs to. -/
def tabletComponent : String := "vttablet"

end LabelKey

namespace AnnotationKey

/-- The shard generation that a pod was last updated for. -/
def observedGeneration : String := "planetscale.com/observed-shard-generation"

/-- The size to which a tablet's file system still has to grow. -/
def filesystemResize : String := "planetscale.com/pvc-filesystem-resize"

/-- The hash of the pod specification that a pod was made from. -/
def specHash : String := "planetscale.com/desired-spec-hash"

/-- Present on objects whose owner knows how to drain them; says what draining achieves. -/
def drainSupported : String := "drain.planetscale.com/supported"

/-- Requests a drain; says why. -/
def drainStarted : String := "drain.planetscale.com/started"

/-- Present once the drain is over and the object may go. -/
def drainFinished : String := "drain.planetscale.com/finished"

/-- The changes that wait for the object to be recreated. -/
def rolloutScheduled : String := "rollout.planetscale.com/scheduled"

/-- Present once the object may be recreated. -/
def rolloutReleased : String := "rollout.planetscale.com/released"

end AnnotationKey

namespace Selector

/-- `k=v` for every entry, separated by commas. -/
def text (selector : StringMap) : String :=
  ",".intercalate (selector.toList.map fun e => e.1 ++ "=" ++ e.2)

/-- Whether `labels` has every entry of the selector. -/
def accepts (selector : StringMap) (labels : Option StringMap) : Bool :=
  selector.toList.all fun e => labels.bind (·.get? e.1) == some e.2

theorem accepts_iff {selector : StringMap} {labels : Option StringMap} :
    accepts selector labels = true
      ↔ ∀ k v, selector.get? k = some v → labels.bind (·.get? k) = some v := by
  simp [accepts, ← OrdMap.mem_toList]

end Selector

end TabletFleet
