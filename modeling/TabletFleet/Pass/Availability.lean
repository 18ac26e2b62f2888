import TabletFleet.Cluster.Pod
import TabletFleet.Timestamp
import TabletFleet.Labels
import TabletFleet.Text.Numeral

set_option autoImplicit false

/-! # Availability

A tablet is available once its pod has been ready for a while, because routers need that long to notice
it. Nothing happens at the end of that while, so a pod that is not available yet has to be looked at
again. -/

namespace TabletFleet

/-- How long a pod has to be ready for its tablet to be available. -/
def availabilityWindow : Duration := .ofSeconds 30

/-- Whether a tablet is available. -/
inductive Availability where
  | available
  /-- Not available, and about to go. -/
  | ending
  /-- Not available yet: look again after the window. -/
  | awaited
deriving DecidableEq, Inhabited

namespace Pod

/-- The first condition that tells whether the pod is ready. -/
def readyCondition? (p : Pod) : Option Condition := do
  Condition.find? "Ready" (← (← p.status).conditions)

def isReady (p : Pod) : Bool :=
  match p.readyCondition? with
  | some c => c.isTrue
  | none => false

def isRunning (p : Pod) : Bool := p.status.bind (·.phase) == some "Running"

/-- Whether a condition that holds has held for the whole window. Without a time of its last change it
has held since long ago. -/
def heldForWindow (c : Condition) (now : Timestamp) : Bool :=
  match c.lastTransitionTime with
  | none => true
  | some t => (availabilityWindow.nanos : Int) ≤ now.since t

/-- Availability of the pod's tablet. A pod on its way out is not available, even while it is still
ready. -/
def availability (p : Pod) (now : Timestamp) : Availability :=
  if p.metadata.isTerminating then .ending
  else
    match p.readyCondition? with
    | some c => if c.isTrue && heldForWindow c now then .available else .awaited
    | none => .awaited

/-- The shard generation that the pod was last updated for, if it is recorded and well formed. -/
def observedGeneration? (p : Pod) : Option Int64 :=
  (p.metadata.annotation? AnnotationKey.observedGeneration).bind Numeral.int64?

end Pod

end TabletFleet
