import TabletFleet.Json.Changes
import TabletFleet.Markers
import TabletFleet.Reconcile.Report

set_option autoImplicit false

/-! # Reconciling a set of objects

Bring the live objects of one kind in line with a list of desired keys. The live objects are listed
once. Then every desired key is visited in turn, its object created or updated, and after that every
live object that is not desired is turned down, in the order of their keys. So a turndown sees what this
pass did to all desired objects. A failed call concerns its own object and stops nothing else; only
when the objects cannot be listed is nothing done. -/

namespace TabletFleet

/-- The desired state of one kind of object. -/
structure ObjectSet where
  ns : String
  /-- What live objects are found by. -/
  selector : StringMap
  /-- The desired keys; of a repeated key the first place counts. -/
  keys : List ObjectKey
  /-- Make objects anew as soon as a change needs it, and not only once they are released. -/
  releaseImmediately : Bool := false
  /-- The time from which objects that go are on their way out. -/
  now : Timestamp
deriving DecidableEq, Inhabited

namespace ObjectSet

open ManagedObject (metadata mapMetadata toJson)

variable {σ K : Type} [ManagedObject K] [DecidableEq K]

/-- Report a failed call to the strategy. -/
def failure (strategy : Strategy σ K) (key : ObjectKey) (verb : Verb) (source : StoreError) :
    StateM σ ObjectError := do
  let e : ObjectError := { kind := ManagedObject.kind K, key, verb, source }
  strategy.objectError key e
  return e

/-! ## Desired objects -/

/-- Create the object of a desired key. -/
def create (store : ObjectStore σ K) (strategy : Strategy σ K) (key : ObjectKey) :
    StateM σ Visit := do
  match ← strategy.newObject key with
  | none => return { key, outcome := .skipped }
  | some object =>
    match ← store.create object with
    | .ok created =>
      strategy.status key created
      return { key, outcome := .created }
    | .error e =>
      return { key, outcome := .failed, failure := some (← failure strategy key .create e) }

/-- Delete a live object, so that the next pass creates it anew. Its status is that of an object on
its way out, unless it could not be deleted. -/
def recreate (store : ObjectStore σ K) (strategy : Strategy σ K) (now : Timestamp)
    (key : ObjectKey) (next : K) : StateM σ Visit := do
  match ← store.delete key with
  | .ok () =>
    let gone := mapMetadata
      (fun m => { m with deletionTimestamp := m.deletionTimestamp.or now }) next
    strategy.status key gone
    return { key, outcome := .recreated }
  | .error e =>
    let failure ← failure strategy key .delete e
    strategy.status key next
    return { key, outcome := .failed, failure := some failure }

/-- Store the next state of a live object, if it differs from the current one. -/
def store (store : ObjectStore σ K) (strategy : Strategy σ K) (key : ObjectKey)
    (current next : K) : StateM σ Visit := do
  if next = current then
    strategy.status key current
    return { key, outcome := .upToDate }
  match ← store.update next with
  | .ok written =>
    strategy.status key written
    return { key, outcome := .updated }
  | .error e =>
    let failure ← failure strategy key .update e
    strategy.status key current
    return { key, outcome := .failed, failure := some failure }

/-- The changes that need an object to be made anew. They are always found, since writing cannot fail. -/
def pendingChanges (anew next : K) : List String := (toJson anew).changedPaths (toJson next)

/-- Bring the live object of a desired key up to date. Changes that need it to be made anew are carried
out if it is released, and announced on it otherwise. -/
def update (store : ObjectStore σ K) (strategy : Strategy σ K) (set : ObjectSet)
    (key : ObjectKey) (current : K) : StateM σ Visit := do
  let next ← strategy.updateInPlace key current
  let anew ← strategy.updateAnew key next
  let pending := pendingChanges anew next
  if pending.isEmpty then
    ObjectSet.store store strategy key current (mapMetadata (·.unschedule) next)
  else if set.releaseImmediately || (metadata current).released then
    recreate store strategy set.now key next
  else
    ObjectSet.store store strategy key current
      (mapMetadata (·.schedule (", ".intercalate pending)) next)

/-! ## Unwanted objects -/

/-- Turn an unwanted object down. One that is kept is stored again if the strategy changed it. -/
def turnDown (store : ObjectStore σ K) (strategy : Strategy σ K) (key : ObjectKey)
    (current : K) : StateM σ Visit := do
  if ManagedObject.isTerminating current then
    return { key, outcome := .terminating }
  match ← strategy.prepareForTurndown key current with
  | (object, .refuse why) =>
    if object = current then
      strategy.orphanStatus key object why
      return { key, outcome := .orphaned why }
    match ← store.update object with
    | .ok written =>
      strategy.orphanStatus key written why
      return { key, outcome := .orphaned why }
    | .error e =>
      let failure ← failure strategy key .update e
      strategy.orphanStatus key object why
      return { key, outcome := .orphaned why, failure := some failure }
  | (_, .allow) =>
    match ← store.delete key with
    | .ok () => return { key, outcome := .deleted }
    | .error e =>
      return { key, outcome := .failed, failure := some (← failure strategy key .delete e) }

/-! ## The set -/

/-- Live objects by key. -/
def live (objects : List K) : OrdMap ObjectKey K :=
  .ofList (objects.filterMap fun object => (ManagedObject.key? object).map (·, object))

/-- Visit a desired key. -/
def visitDesired (store : ObjectStore σ K) (strategy : Strategy σ K) (set : ObjectSet)
    (live : OrdMap ObjectKey K) (key : ObjectKey) : StateM σ Visit :=
  match live.get? key with
  | none => create store strategy key
  | some current => update store strategy set key current

/-- The live objects that are not desired. -/
def unwanted (set : ObjectSet) (live : OrdMap ObjectKey K) : List (ObjectKey × K) :=
  live.toList.filter fun e => !set.keys.contains e.1

/-- Visit every desired key, then every unwanted object. -/
def visitAll (store : ObjectStore σ K) (strategy : Strategy σ K) (set : ObjectSet)
    (live : OrdMap ObjectKey K) : StateM σ (List Visit) := do
  let desired ← set.keys.eraseDups.mapM (visitDesired store strategy set live)
  let unwanted ← (set.unwanted live).mapM fun e => turnDown store strategy e.1 e.2
  return desired ++ unwanted

/-- Bring the live objects in line with the desired keys. -/
def reconcile (store : ObjectStore σ K) (strategy : Strategy σ K) (set : ObjectSet) :
    StateM σ (Except ReconcileError SetReport) := do
  match ← store.list set.ns set.selector with
  | .error e => return .error (.list (ManagedObject.kind K) e)
  | .ok objects =>
    let visits ← visitAll store strategy set (live objects)
    return .ok { kind := ManagedObject.kind K, visits }

end ObjectSet

end TabletFleet
