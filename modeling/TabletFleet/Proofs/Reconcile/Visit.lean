import TabletFleet.Pass.State
import TabletFleet.Proofs.StateRun
import TabletFleet.Proofs.Store.Action
import TabletFleet.Reconcile.ObjectSet

set_option autoImplicit false

/-! # Single visits

What one visit of the reconciler comes to: at most one call, at the visited key, and otherwise what the
callbacks of the strategy do to the state. Which call it is follows from the live object and from what
the strategy makes of it, whatever the store answers. Hence one rule for each kind of visit
(`visitDesired_rule`, `turnDown_rule`): what holds until the call is made, and what the call makes of
it, holds in the end, if no callback breaks either. -/

namespace TabletFleet

open ManagedObject (metadata mapMetadata key?)
open StateRun

/-! ## Keys after changes of the metadata -/

namespace ManagedObject

variable {K : Type} [ManagedObject K]

/-- The key is all about namespace and name. -/
theorem key?_congr {a b : K} (hns : (metadata a).ns = (metadata b).ns)
    (hname : (metadata a).name = (metadata b).name) : key? a = key? b := by
  rw [key?, key?, hns, hname]

theorem key?_unschedule (object : K) : key? (mapMetadata (·.unschedule) object) = key? object := by
  refine key?_congr ?_ ?_ <;> rw [metadata_mapMetadata] <;> rfl

theorem key?_schedule (changes : String) (object : K) :
    key? (mapMetadata (·.schedule changes) object) = key? object := by
  refine key?_congr ?_ ?_ <;> rw [metadata_mapMetadata] <;> rfl

end ManagedObject

/-! ## Which call a visit makes -/

namespace ObjectSet

variable {σ K : Type}

/-- The call for a desired key without a live object. -/
def createAction (object : Option K) : Action K :=
  match object with
  | none => .rest
  | some object => .create object

variable [ManagedObject K] [DecidableEq K]

/-- The call for a live desired object, given what it becomes in place and what it would be anew. -/
def updateAction (set : ObjectSet) (current next anew : K) : Action K :=
  if (pendingChanges anew next).isEmpty then .replace current (mapMetadata (·.unschedule) next)
  else if set.releaseImmediately || (metadata current).released then .delete
  else
    .replace current
      (mapMetadata (·.schedule (", ".intercalate (pendingChanges anew next))) next)

/-- The call for a desired key, made in the given state. -/
def desiredAction (strategy : Strategy σ K) (set : ObjectSet) (live : Option K) (key : ObjectKey)
    (s : σ) : Action K :=
  match live with
  | none => createAction (strategy.newObject key s).1
  | some current =>
    let next := strategy.updateInPlace key current s
    let anew := strategy.updateAnew key next.1 next.2
    set.updateAction current next.1 anew.1

/-- The call for an unwanted object, given the verdict on it. -/
def turnDownAction (current : K) (prepared : K × Verdict) : Action K :=
  if ManagedObject.isTerminating current then .rest
  else
    match prepared with
    | (object, .refuse _) => .replace current object
    | (_, .allow) => .delete

theorem updateAction_fits (set : ObjectSet) {key : ObjectKey} {current next : K} (anew : K)
    (h : key? next = some key) : (set.updateAction current next anew).Fits key := by
  unfold updateAction
  split
  · exact Action.replace_fits ((ManagedObject.key?_unschedule _).trans h)
  · split
    · trivial
    · exact Action.replace_fits ((ManagedObject.key?_schedule _ _).trans h)

end ObjectSet

/-- The calls on one kind of object in a memory store, made during a pass. -/
def passCalls (K : Type) [Stored K] : ObjectStore (PassState MemoryStore) K :=
  (MemoryStore.calls K).lift PassState.onWorld

/-- The state once a call has been made. -/
def PassState.act {K : Type} [Stored K] (s : PassState MemoryStore) (a : Action K)
    (key : ObjectKey) : PassState MemoryStore :=
  { s with world := a.perform key s.world }

theorem PassState.world_act {K : Type} [Stored K] (s : PassState MemoryStore) (a : Action K)
    (key : ObjectKey) : (s.act a key).world = a.perform key s.world := rfl

/-! ## What callbacks leave alone -/

/-- No callback for the given key breaks a property of the state. -/
structure Strategy.Keeps {σ K : Type} (strategy : Strategy σ K) (key : ObjectKey)
    (P : σ → Prop) : Prop where
  newObject : ∀ s, P s → P (strategy.newObject key s).2
  updateInPlace : ∀ object s, P s → P (strategy.updateInPlace key object s).2
  updateAnew : ∀ object s, P s → P (strategy.updateAnew key object s).2
  status : ∀ object s, P s → P (strategy.status key object s).2
  orphanStatus : ∀ object why s, P s → P (strategy.orphanStatus key object why s).2
  prepareForTurndown : ∀ object s, P s → P (strategy.prepareForTurndown key object s).2
  objectError : ∀ e s, P s → P (strategy.objectError key e s).2

namespace ObjectSet

variable {K : Type} [Stored K]

/-! ## The parts of a visit -/

theorem create_apply (key : ObjectKey) (object : K) (s : PassState MemoryStore) :
    (passCalls K).create object s
      = (((MemoryStore.calls K).create object s.world).1, s.act (.create object) key) := rfl

theorem update_apply (key : ObjectKey) (object : K) (s : PassState MemoryStore) :
    (passCalls K).update object s
      = (((MemoryStore.calls K).update object s.world).1, s.act (.update object) key) := rfl

theorem delete_apply (key : ObjectKey) (s : PassState MemoryStore) :
    (passCalls K).delete key s
      = (((MemoryStore.calls K).delete key s.world).1, s.act (Action.delete (K := K)) key) := rfl

variable {strategy : Strategy (PassState MemoryStore) K} {key : ObjectKey}
variable {P Q : PassState MemoryStore → Prop}

theorem failure_keeps (h : strategy.Keeps key Q) (verb : Verb) (e : StoreError)
    {s : PassState MemoryStore} (hs : Q s) : Q (failure strategy key verb e s).2 := by
  simp only [failure, bind_apply, pure_apply]
  exact h.objectError _ _ hs

theorem create_rule (hP : strategy.Keeps key P) (hQ : strategy.Keeps key Q)
    {s : PassState MemoryStore} (hs : P s)
    (hcall : ∀ t, P t → Q (t.act (createAction (strategy.newObject key s).1) key)) :
    Q (create (passCalls K) strategy key s).2 := by
  have hnew := hcall _ (hP.newObject s hs)
  simp only [create, bind_apply]
  cases hobject : (strategy.newObject key s).1 with
  | none =>
      rw [hobject] at hnew
      exact hnew
  | some object =>
      rw [hobject] at hnew
      simp only [bind_apply, create_apply key]
      cases ((MemoryStore.calls K).create object (strategy.newObject key s).2.world).1 with
      | ok created => exact hQ.status _ _ hnew
      | error e => exact failure_keeps hQ .create e hnew

theorem recreate_rule (hQ : strategy.Keeps key Q) (now : Timestamp) (next : K)
    {s : PassState MemoryStore} (hcall : Q (s.act (Action.delete (K := K)) key)) :
    Q (recreate (passCalls K) strategy now key next s).2 := by
  simp only [recreate, bind_apply, delete_apply key]
  cases ((MemoryStore.calls K).delete key s.world).1 with
  | ok => exact hQ.status _ _ hcall
  | error e => exact hQ.status _ _ (failure_keeps hQ .delete e hcall)

variable [DecidableEq K]

theorem store_rule (hQ : strategy.Keeps key Q) (current next : K) {s : PassState MemoryStore}
    (hcall : Q (s.act (.replace current next) key)) :
    Q (store (passCalls K) strategy key current next s).2 := by
  unfold store
  by_cases heq : next = current
  · rw [Action.replace, if_pos heq] at hcall
    rw [if_pos heq]
    exact hQ.status _ _ hcall
  · rw [Action.replace, if_neg heq] at hcall
    simp only [if_neg heq, bind_apply, update_apply key]
    cases ((MemoryStore.calls K).update next s.world).1 with
    | ok written => exact hQ.status _ _ hcall
    | error e => exact hQ.status _ _ (failure_keeps hQ .update e hcall)

theorem update_rule (hP : strategy.Keeps key P) (hQ : strategy.Keeps key Q) (set : ObjectSet)
    (current : K) {s : PassState MemoryStore} (hs : P s)
    (hcall : ∀ t, P t → Q (t.act (desiredAction strategy set (some current) key s) key)) :
    Q (update (passCalls K) strategy set key current s).2 := by
  -- the call is known before it is made: it depends on the answers of callbacks only
  have hnext := hcall _ (hP.updateAnew (strategy.updateInPlace key current s).1 _
    (hP.updateInPlace current s hs))
  simp only [desiredAction, updateAction] at hnext
  simp only [update, bind_apply]
  split at hnext
  · next hpending =>
      rw [if_pos hpending]
      exact store_rule hQ _ _ hnext
  · next hpending =>
      rw [if_neg hpending]
      split at hnext
      · next hrelease =>
          rw [if_pos hrelease]
          exact recreate_rule hQ _ _ hnext
      · next hrelease =>
          rw [if_neg hrelease]
          exact store_rule hQ _ _ hnext

/-! ## Whole visits -/

/-- Until its call a visit to a desired key keeps `P`; if the call turns `P` into `Q`, the visit ends
in `Q`. -/
theorem visitDesired_rule (hP : strategy.Keeps key P) (hQ : strategy.Keeps key Q) (set : ObjectSet)
    (live : OrdMap ObjectKey K) {s : PassState MemoryStore} (hs : P s)
    (hcall : ∀ t, P t → Q (t.act (desiredAction strategy set (live.get? key) key s) key)) :
    Q (visitDesired (passCalls K) strategy set live key s).2 := by
  unfold visitDesired
  cases hlive : live.get? key with
  | none =>
      rw [hlive] at hcall
      exact create_rule hP hQ hs hcall
  | some current =>
      rw [hlive] at hcall
      exact update_rule hP hQ set current hs hcall

/-- Until its call the visit to an unwanted object keeps `P`; if the call turns `P` into `Q`, the visit
ends in `Q`. -/
theorem turnDown_rule (hP : strategy.Keeps key P) (hQ : strategy.Keeps key Q) (current : K)
    {s : PassState MemoryStore} (hs : P s)
    (hcall : ∀ t, P t →
      Q (t.act (turnDownAction current (strategy.prepareForTurndown key current s).1) key)) :
    Q (turnDown (passCalls K) strategy key current s).2 := by
  unfold turnDown
  by_cases hterm : ManagedObject.isTerminating current = true
  · have hrest := hcall s hs
    simp only [turnDownAction, if_pos hterm] at hrest
    rw [if_pos hterm]
    exact hrest
  · have hprepared := hcall _ (hP.prepareForTurndown current s hs)
    simp only [turnDownAction, if_neg hterm] at hprepared
    simp only [if_neg hterm, bind_apply]
    revert hprepared
    obtain ⟨object, verdict⟩ := (strategy.prepareForTurndown key current s).1
    intro hprepared
    cases verdict with
    | refuse why =>
        simp only [Action.replace] at hprepared
        by_cases heq : object = current
        · rw [if_pos heq] at hprepared
          simp only [if_pos heq]
          exact hQ.orphanStatus _ _ _ hprepared
        · rw [if_neg heq] at hprepared
          simp only [if_neg heq, bind_apply, update_apply key]
          cases ((MemoryStore.calls K).update object
              (strategy.prepareForTurndown key current s).2.world).1 with
          | ok written => exact hQ.orphanStatus _ _ _ hprepared
          | error e =>
              exact hQ.orphanStatus _ _ _ (failure_keeps hQ .update e hprepared)
    | allow =>
        simp only [bind_apply, delete_apply key]
        cases ((MemoryStore.calls K).delete key
            (strategy.prepareForTurndown key current s).2.world).1 with
        | ok answer => cases answer; exact hprepared
        | error e => exact failure_keeps hQ .delete e hprepared

end ObjectSet

end TabletFleet
