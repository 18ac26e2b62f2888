import TabletFleet.OrdMap
import TabletFleet.Shard.Status
import TabletFleet.Store.Basic
import TabletFleet.Timestamp

set_option autoImplicit false

/-! # Reports and strategies

What reconciling a set of objects did: one visit for every key, in the order in which the keys were
visited, with its outcome and the failed call, if there was one. What was created, updated and so on is
read off the visits. -/

namespace TabletFleet

/-- A failed call on one object. -/
structure ObjectError where
  kind : String
  key : ObjectKey
  verb : Verb
  source : StoreError
deriving DecidableEq, Inhabited

def ObjectError.message (e : ObjectError) : String :=
  e.verb.name ++ " " ++ e.kind ++ " " ++ e.key.text ++ ": " ++ e.source.message

example : (⟨"Pod", ⟨"ns", "a"⟩, .update, .conflict "Pod" ⟨"ns", "a"⟩⟩ : ObjectError).message
    = "update Pod ns/a: Pod ns/a was modified concurrently" := by decide

/-- What became of an object. -/
inductive Outcome where
  /-- There was nothing to create. -/
  | skipped
  | created
  | upToDate
  | updated
  /-- Deleted, so that the next pass creates it with its pending changes. -/
  | recreated
  /-- On its way out already. -/
  | terminating
  | deleted
  /-- Unwanted, but kept for now. -/
  | orphaned (why : OrphanStatus)
  /-- A call failed, and nothing was done. -/
  | failed
deriving DecidableEq, Inhabited

/-- What was done about one key. An unwanted object that is kept counts as orphaned even if the call
that was to record its new state failed. -/
structure Visit where
  key : ObjectKey
  outcome : Outcome
  failure : Option ObjectError := none
deriving DecidableEq, Inhabited

/-- What reconciling one kind of object did. -/
structure SetReport where
  kind : String
  visits : List Visit
deriving DecidableEq, Inhabited

namespace SetReport

/-- The keys of the visits with the given outcome, in the order of the visits. -/
def keysOf (r : SetReport) (outcome : Outcome) : List ObjectKey :=
  r.visits.filterMap fun v => if v.outcome = outcome then some v.key else none

def created (r : SetReport) : List ObjectKey := r.keysOf .created

def updated (r : SetReport) : List ObjectKey := r.keysOf .updated

def recreated (r : SetReport) : List ObjectKey := r.keysOf .recreated

def deleted (r : SetReport) : List ObjectKey := r.keysOf .deleted

/-- The unwanted objects that are kept, and why. -/
def orphaned (r : SetReport) : OrdMap ObjectKey OrphanStatus :=
  .ofList (r.visits.filterMap fun v =>
    match v.outcome with
    | .orphaned why => some (v.key, why)
    | _ => none)

/-- The failed calls, in the order in which they were made. -/
def errors (r : SetReport) : List ObjectError := r.visits.filterMap (·.failure)

end SetReport

/-- What went wrong with one kind of object. -/
inductive ReconcileError where
  /-- The objects could not be listed, and nothing was done. -/
  | list (kind : String) (source : StoreError)
  /-- Calls on some of the objects failed. -/
  | objects (kind : String) (errors : List ObjectError)
deriving DecidableEq, Inhabited

def ReconcileError.message : ReconcileError → String
  | .list kind source => "listing " ++ kind ++ ": " ++ source.message
  | .objects kind errors =>
    toString errors.length ++ " " ++ kind ++ " object(s) failed: "
      ++ "; ".intercalate (errors.map (·.message))

/-- The failed calls of a report as one error, if there are any. -/
def SetReport.error? (r : SetReport) : Option ReconcileError :=
  if r.errors.isEmpty then none else some (.objects r.kind r.errors)

/-! ## The result of a pass -/

/-- What a pass over several kinds of objects comes to. -/
structure PassResult where
  /-- When to look again even if nothing changes. -/
  requeueAfter : Option Duration := none
  errors : List ReconcileError := []
deriving DecidableEq, Inhabited

namespace PassResult

/-- Ask to look again after the given time; the earliest request counts. -/
def requeue (r : PassResult) (d : Duration) : PassResult :=
  { r with requeueAfter := some (match r.requeueAfter with
    | none => d
    | some d' => d'.shorter d) }

/-- Record an error. -/
def addError (r : PassResult) (e : ReconcileError) : PassResult :=
  { r with errors := r.errors ++ [e] }

/-- Record the failures of a set, if there are any. -/
def addErrors (r : PassResult) (e? : Option ReconcileError) : PassResult :=
  match e? with
  | none => r
  | some e => r.addError e

/-- Record what became of a set of objects. -/
def addOutcome (r : PassResult) (outcome : Except ReconcileError SetReport) : PassResult :=
  match outcome with
  | .ok report => r.addErrors report.error?
  | .error e => r.addError e

/-- All errors in one text, if there are any. -/
def error? (r : PassResult) : Option String :=
  if r.errors.isEmpty then none else some ("; ".intercalate (r.errors.map (·.message)))

end PassResult

/-! ## Strategies

What the reconciler has to be told about a kind of object: how a desired one looks, which changes it
takes in place and which only by being made anew, how it shows in the status, and whether an unwanted
one may go. Everything but making new objects has a default: nothing is changed, nothing is reported,
and unwanted objects go at once. -/

/-- Whether an unwanted object may go. -/
inductive Verdict where
  | allow
  | refuse (why : OrphanStatus)
deriving DecidableEq, Inhabited

/-- The decisions about objects of kind `K`, made in a world of type `σ`. -/
structure Strategy (σ K : Type) where
  /-- The object for a desired key that has none; without one, the key is skipped. -/
  newObject : ObjectKey → StateM σ (Option K)
  /-- Apply the changes that a running object takes. -/
  updateInPlace : ObjectKey → K → StateM σ K := fun _ object => pure object
  /-- Apply the changes that need the object to be made anew. -/
  updateAnew : ObjectKey → K → StateM σ K := fun _ object => pure object
  /-- Take a desired object into the status. -/
  status : ObjectKey → K → StateM σ Unit := fun _ _ => pure ()
  /-- Take an unwanted object that is kept into the status. -/
  orphanStatus : ObjectKey → K → OrphanStatus → StateM σ Unit := fun _ _ _ => pure ()
  /-- Decide about an unwanted object, and prepare it for going. -/
  prepareForTurndown : ObjectKey → K → StateM σ (K × Verdict) := fun _ object =>
    pure (object, .allow)
  /-- Take note of a failed call. -/
  objectError : ObjectKey → ObjectError → StateM σ Unit := fun _ _ => pure ()

end TabletFleet
