import TabletFleet.Pass.Availability
import TabletFleet.Pass.State
import TabletFleet.Pass.Turndown
import TabletFleet.Tablet.Objects

set_option autoImplicit false

/-! # Claims and pods in a pass

How a pass treats the data volume claims and the pods of a shard's tablets, and what it reports of
them. -/

namespace TabletFleet

/-! ## Claims -/

namespace Claim

/-- A volume was found for the claim. -/
def isBound (c : Claim) : Bool := c.status.bind (·.phase) == some "Bound"

end Claim

/-- How a pass treats claims. -/
def claimStrategy {σ : Type} (input : PassInput σ) : Strategy (PassState σ) Claim where
  newObject key := do
    -- not created yet, so not bound
    modify (·.modifyTablet key fun t => { t with dataVolumeBound := .no })
    return (← get).tablets.get? key |>.bind (·.newClaim? key)
  updateInPlace key c := do
    match (← get).tablets.get? key with
    | none => return c
    | some t => return c.updateInPlace t
  status key c :=
    modify (·.modifyTablet key fun t => { t with dataVolumeBound := .ofBool c.isBound })
  prepareForTurndown key c := do
    return (c, ← Turndown.claim input.cluster.duringPass.pods key)
  objectError key e :=
    modify (·.modifyTablet key fun t => { t with lastError := some e.message })

/-! ## File system resizes

When a volume has grown and the file system on it has not, the pod that mounts it has to be restarted.
The size that is waited for is put among the tablet's annotations, which makes it a change of the
pod. -/

/-- The type of the condition of a claim whose volume has grown ahead of its file system. -/
def resizePending : String := "FileSystemResizePending"

/-- The size that the file system of a claim has still to grow to: the tablet's, if the claim requests
as much already and waits for its file system. -/
def Claim.resizeTarget? (c : Claim) (t : TabletSpec) : Option Quantity := do
  let want ← t.claimTemplate.bind (·.requestedStorage?)
  let live ← c.spec.bind (·.requestedStorage?)
  guard (want.same live)
  let pending ← Condition.find? resizePending (← (← c.status).conditions)
  guard pending.isTrue
  return want

namespace TabletSpec

/-- Mark the tablet for a resize of its file system, if its claim waits for one. -/
def markResize (t : TabletSpec) (claim : Option Claim) : TabletSpec :=
  match claim.bind (·.resizeTarget? t) with
  | none => t
  | some size =>
    { t with annotations := t.annotations.insert AnnotationKey.filesystemResize size.text }

variable {σ : Type}

/-- Look the tablet's claim up and mark the tablet for a resize if need be. A claim that cannot be
looked up means that there is nothing to do yet. -/
def checkResize (claims : ObjectStore σ Claim) (ns : String) (t : TabletSpec) :
    StateM σ TabletSpec := do
  if t.claimTemplate.isNone then return t
  match ← claims.get (t.key ns) with
  | .ok claim => return t.markResize claim
  | .error _ => return t

end TabletSpec

/-! ## Pods -/

namespace Pod

/-- Record the shard generation that the pod is updated for. -/
def stampGeneration (p : Pod) (generation : Int64) : Pod :=
  { p with metadata :=
      p.metadata.annotate AnnotationKey.observedGeneration (toString generation.toInt) }

/-- Ready, and not on its way out. -/
def isServing (p : Pod) : Bool := p.isReady && !p.metadata.isTerminating

/-- The name under which an unwanted pod is reported: its alias, or its own name if its labels tell
none. -/
def orphanName (p : Pod) (key : ObjectKey) : String :=
  match TabletAlias.ofLabels? p.metadata.labels with
  | some identity => identity.text
  | none => key.name

end Pod

namespace TabletStatus

/-- What a tablet's pod says of it at the given time. -/
def observePod (t : TabletStatus) (p : Pod) (now : Timestamp) : TabletStatus :=
  { t with
    running := .ofBool p.isRunning
    ready := .ofBool p.isServing
    available := .ofBool (p.isServing && p.availability now == .available)
    pendingChanges := p.metadata.scheduled?.getD "" }

end TabletStatus

namespace PassState

variable {σ : Type}

/-- Take the pod of a desired tablet into account. -/
def observePod (s : PassState σ) (key : ObjectKey) (p : Pod) (now : Timestamp) : PassState σ :=
  let s := s.modifyTablet key (·.observePod p now)
  let s :=
    if p.isServing && p.availability now == .awaited then
      { s with result := s.result.requeue availabilityWindow }
    else s
  match p.observedGeneration? with
  | none => s
  | some g => { s with status := s.status.observeGeneration g }

/-- Take an unwanted pod that is kept into account. Its cell still has a tablet. -/
def observeOrphan (s : PassState σ) (key : ObjectKey) (p : Pod) (why : OrphanStatus) : PassState σ :=
  { s with
    cells := ((TabletAlias.ofLabels? p.metadata.labels).map (·.cell)).toList ++ s.cells
    status := { s.status with
      orphanedTablets := s.status.orphanedTablets.insert (p.orphanName key) why } }

end PassState

/-- How a pass treats pods. -/
def podStrategy {σ : Type} (input : PassInput σ) : Strategy (PassState σ) Pod where
  newObject key := do
    -- not created yet, so nothing is running
    modify (·.modifyTablet key fun t => { t with running := .no, ready := .no, available := .no })
    return (← get).tablets.get? key |>.map (·.newPod key)
  updateInPlace key p := do
    let p := match (← get).tablets.get? key with
      | none => p
      | some t => p.updateInPlace t
    return p.stampGeneration input.shard.generation
  updateAnew key p := do
    match (← get).tablets.get? key with
    | none => return p
    | some t =>
      let t ← t.checkResize input.cluster.duringPass.claims input.shard.ns
      modify fun s => { s with tablets := s.tablets.insert key t }
      return p.update t
  status key p := modify (·.observePod key p input.now)
  orphanStatus key p why := modify (·.observeOrphan key p why)
  prepareForTurndown _ p := do
    let lookup : PrimaryLookup (PassState σ) := {
      topology := input.topology.lift PassState.onWorld
      shard := ⟨input.shard.keyspaceName, input.shard.spec.name⟩
      timeout := input.config.lookupTimeout }
    let desired := (← get).status.tablets
    Turndown.pod lookup (TabletAlias.ofLabels? p.metadata.labels) desired p
  objectError key e :=
    modify (·.modifyTablet key fun t => { t with lastError := some e.message })

end TabletFleet
