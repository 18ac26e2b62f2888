import TabletFleet.Proofs.Reconcile.Recorded

set_option autoImplicit false

/-! # Journals

A store can keep a journal of the calls that are made on it, reads included, with the errors that they
end with. Nobody sees the journal, so a reconciliation on such stores goes as it does without. Its
failures are those of the journal: of the calls that write, every one that fails is reported, once, in
the order in which they were made, and nothing else is (`ObjectSet.reconcile_journaled`). What a
strategy reads on its way is no failure, however it ends. -/

namespace TabletFleet

open ManagedObject (key? isTerminating)
open StateRun

/-! ## Calls -/

def Verb.isWrite : Verb → Bool
  | .create | .update | .delete => true
  | .get | .list => false

/-- A call on objects of a kind, with the key that it was made for, if there is one, and with the error that
it ended with, if it failed. -/
structure Call where
  kind : String
  verb : Verb
  key : Option ObjectKey
  error : Option StoreError
deriving DecidableEq

namespace Call

def ofAnswer {α : Type} (kind : String) (verb : Verb) (key : Option ObjectKey)
    (answer : Except StoreError α) : Call where
  kind := kind
  verb := verb
  key := key
  error :=
    match answer with
    | .ok _ => none
    | .error e => some e

/-- The failure of a call that writes, if it fails. -/
def failedWrite? (c : Call) : Option ObjectError :=
  if c.verb.isWrite then
    match c.key, c.error with
    | some key, some source => some { kind := c.kind, key, verb := c.verb, source }
    | _, _ => none
  else none

theorem failedWrite?_eq_some {c : Call} {e : ObjectError} : c.failedWrite? = some e ↔
    c.verb.isWrite = true ∧
      c = { kind := e.kind, verb := e.verb, key := some e.key, error := some e.source } := by
  obtain ⟨kind, verb, key, error⟩ := c
  obtain ⟨kind', key', verb', source⟩ := e
  unfold failedWrite?
  cases key <;> cases error <;> simp
  exact fun _ _ => and_left_comm

end Call

/-- A world with a journal. -/
structure Journaled (σ : Type) where
  world : σ
  calls : List Call := []

namespace Journaled

variable {σ α : Type}

/-- Act on the world without a call. -/
def onWorld (act : StateM σ α) : StateM (Journaled σ) α := fun s =>
  ((act s.world).1, { s with world := (act s.world).2 })

/-- Make a call, and enter it in the journal. -/
def calling (entry : Except StoreError α → Call) (act : StateM σ (Except StoreError α)) :
    StateM (Journaled σ) (Except StoreError α) := fun s =>
  ((act s.world).1, ⟨(act s.world).2, s.calls ++ [entry (act s.world).1]⟩)

/-- The failures of the calls that write, in the order of the calls. -/
def failedWrites (s : Journaled σ) : List ObjectError := s.calls.filterMap (·.failedWrite?)

end Journaled

variable {σ τ K : Type} [ManagedObject K]

def ObjectStore.journaled (store : ObjectStore σ K) : ObjectStore (Journaled σ) K where
  get key := Journaled.calling (.ofAnswer (ManagedObject.kind K) .get (some key)) (store.get key)
  list ns selector :=
    Journaled.calling (.ofAnswer (ManagedObject.kind K) .list none) (store.list ns selector)
  create object :=
    Journaled.calling (.ofAnswer (ManagedObject.kind K) .create (key? object)) (store.create object)
  update object :=
    Journaled.calling (.ofAnswer (ManagedObject.kind K) .update (key? object)) (store.update object)
  delete key :=
    Journaled.calling (.ofAnswer (ManagedObject.kind K) .delete (some key)) (store.delete key)

/-! ## Accounting for failures -/

/-- Of the journaled calls all that write are on objects of the kind and have keys, and those of them
that failed are the given failures. -/
structure Accounts (kind : String) (failures : List ObjectError) (calls : List Call) : Prop where
  own : ∀ c ∈ calls, c.verb.isWrite = true → c.kind = kind ∧ c.key.isSome = true
  failed : calls.filterMap (·.failedWrite?) = failures

namespace Accounts

variable {kind : String} {failures failures' : List ObjectError} {calls calls' : List Call}

theorem nil : Accounts kind [] [] := ⟨by simp, rfl⟩

theorem append (h : Accounts kind failures calls) (h' : Accounts kind failures' calls') :
    Accounts kind (failures ++ failures') (calls ++ calls') where
  own := List.forall_mem_append.2 ⟨h.own, h'.own⟩
  failed := by rw [List.filterMap_append, h.failed, h'.failed]

/-- A call that reads is accounted for by nothing, however it ends. -/
theorem reading {α : Type} {verb : Verb} (hverb : verb.isWrite = false) (kind' : String)
    (key : Option ObjectKey) (answer : Except StoreError α) :
    Accounts kind [] [.ofAnswer kind' verb key answer] where
  own c hc hwrite := by
    obtain rfl := List.mem_singleton.1 hc
    cases hverb.symm.trans hwrite
  failed := by
    cases verb <;> first | rfl | cases hverb

theorem done {α : Type} (verb : Verb) (key : ObjectKey) (a : α) :
    Accounts kind [] [.ofAnswer kind verb (some key) (.ok a)] where
  own c hc _ := by
    obtain rfl := List.mem_singleton.1 hc
    exact ⟨rfl, rfl⟩
  failed := by cases verb <;> rfl

theorem failing {α : Type} {verb : Verb} (hverb : verb.isWrite = true) (key : ObjectKey)
    (source : StoreError) :
    Accounts kind [{ kind, key, verb, source }]
      [.ofAnswer kind verb (some key) (.error source : Except StoreError α)] where
  own c hc _ := by
    obtain rfl := List.mem_singleton.1 hc
    exact ⟨rfl, rfl⟩
  failed := by
    cases verb <;> first | rfl | cases hverb

end Accounts

/-! ## Stores and strategies with a journal -/

section Journaling

variable (withCalls : σ → List Call → τ) (Inv : σ → Prop)

/-- The calls of the first store are those of the second, entered in the journal. -/
structure ObjectStore.Journals (journaling : ObjectStore τ K) (store : ObjectStore σ K) : Prop where
  list : ∀ ns selector, Noting withCalls Inv
    (fun answer calls => calls = [.ofAnswer (ManagedObject.kind K) .list none answer])
    (journaling.list ns selector) (store.list ns selector)
  create : ∀ object, Noting withCalls Inv
    (fun answer calls => calls = [.ofAnswer (ManagedObject.kind K) .create (key? object) answer])
    (journaling.create object) (store.create object)
  update : ∀ object, Noting withCalls Inv
    (fun answer calls => calls = [.ofAnswer (ManagedObject.kind K) .update (key? object) answer])
    (journaling.update object) (store.update object)
  delete : ∀ key, Noting withCalls Inv
    (fun answer calls => calls = [.ofAnswer (ManagedObject.kind K) .delete (some key) answer])
    (journaling.delete key) (store.delete key)

/-- The first strategy decides as the second does, its calls are entered in the journal, and they have no
part in what fails. The objects that it makes and changes have the keys that they should have. -/
structure Strategy.Journals (journaling : Strategy τ K) (strategy : Strategy σ K) : Prop where
  newObject : ∀ key, Noting withCalls Inv
    (fun object? calls => Accounts (ManagedObject.kind K) [] calls ∧
      ∀ object, object? = some object → key? object = some key)
    (journaling.newObject key) (strategy.newObject key)
  updateInPlace : ∀ key object, Noting withCalls Inv
    (fun next calls => Accounts (ManagedObject.kind K) [] calls ∧ key? next = key? object)
    (journaling.updateInPlace key object) (strategy.updateInPlace key object)
  updateAnew : ∀ key object, Noting withCalls Inv
    (fun _ calls => Accounts (ManagedObject.kind K) [] calls)
    (journaling.updateAnew key object) (strategy.updateAnew key object)
  status : ∀ key object, Noting withCalls Inv
    (fun _ calls => Accounts (ManagedObject.kind K) [] calls)
    (journaling.status key object) (strategy.status key object)
  orphanStatus : ∀ key object why, Noting withCalls Inv
    (fun _ calls => Accounts (ManagedObject.kind K) [] calls)
    (journaling.orphanStatus key object why) (strategy.orphanStatus key object why)
  prepareForTurndown : ∀ key object, Noting withCalls Inv
    (fun prepared calls => Accounts (ManagedObject.kind K) [] calls ∧ key? prepared.1 = key? object)
    (journaling.prepareForTurndown key object) (strategy.prepareForTurndown key object)
  objectError : ∀ key e, Noting withCalls Inv
    (fun _ calls => Accounts (ManagedObject.kind K) [] calls)
    (journaling.objectError key e) (strategy.objectError key e)

end Journaling

namespace ObjectSet

open ManagedObject (mapMetadata)

variable {withCalls : σ → List Call → τ} {Inv : σ → Prop}
variable {store' : ObjectStore τ K} {store : ObjectStore σ K}
variable {strategy' : Strategy τ K} {strategy : Strategy σ K} {key : ObjectKey}

/-- A visit whose failure is all that fails. -/
abbrev VisitAccounts (kind : String) (v : Visit) (calls : List Call) : Prop :=
  Accounts kind v.failure.toList calls

section Visits

variable (hstore : store'.Journals withCalls Inv store)
variable (h : strategy'.Journals withCalls Inv strategy)
include hstore h

theorem create_journaled :
    Noting withCalls Inv (VisitAccounts (ManagedObject.kind K)) (create store' strategy' key)
      (create store strategy key) := by
  simp only [create, failure_bind]
  refine (h.newObject key).bind fun object? asked hnew => ?_
  obtain ⟨hasked, hkey⟩ := hnew
  cases object? with
  | none => exact .pure (hasked.append .nil)
  | some object =>
      refine (hstore.create object).bind fun answer called hcalled => ?_
      rw [hkey object rfl] at hcalled
      obtain rfl := hcalled
      cases answer with
      | ok created =>
          refine (h.status key created).bind fun _ told htold => .pure ?_
          exact hasked.append ((Accounts.done .create key created).append (htold.append .nil))
      | error e =>
          refine (h.objectError key _).bind fun _ told htold => .pure ?_
          exact hasked.append ((Accounts.failing rfl key e).append (htold.append .nil))

theorem recreate_journaled (now : Timestamp) (next : K) :
    Noting withCalls Inv (VisitAccounts (ManagedObject.kind K))
      (recreate store' strategy' now key next) (recreate store strategy now key next) := by
  simp only [recreate, failure_bind]
  refine (hstore.delete key).bind fun answer called hcalled => ?_
  obtain rfl := hcalled
  cases answer with
  | ok gone =>
      refine (h.status key _).bind fun _ told htold => .pure ?_
      exact (Accounts.done .delete key gone).append (htold.append .nil)
  | error e =>
      refine (h.objectError key _).bind fun _ told htold => ?_
      refine (h.status key next).bind fun _ told' htold' => .pure ?_
      exact (Accounts.failing rfl key e).append (htold.append (htold'.append .nil))

variable [DecidableEq K]

theorem store_journaled (current : K) {next : K} (hnext : key? next = some key) :
    Noting withCalls Inv (VisitAccounts (ManagedObject.kind K))
      (ObjectSet.store store' strategy' key current next)
      (ObjectSet.store store strategy key current next) := by
  simp only [ObjectSet.store, failure_bind]
  by_cases heq : next = current
  · simp only [if_pos heq]
    exact (h.status key current).bind fun _ told htold => .pure (htold.append .nil)
  · simp only [if_neg heq]
    refine (hstore.update next).bind fun answer called hcalled => ?_
    rw [hnext] at hcalled
    obtain rfl := hcalled
    cases answer with
    | ok written =>
        refine (h.status key written).bind fun _ told htold => .pure ?_
        exact (Accounts.done .update key written).append (htold.append .nil)
    | error e =>
        refine (h.objectError key _).bind fun _ told htold => ?_
        refine (h.status key current).bind fun _ told' htold' => .pure ?_
        exact (Accounts.failing rfl key e).append (htold.append (htold'.append .nil))

theorem update_journaled (set : ObjectSet) {current : K} (hcurrent : key? current = some key) :
    Noting withCalls Inv (VisitAccounts (ManagedObject.kind K))
      (update store' strategy' set key current) (update store strategy set key current) := by
  unfold update
  refine (h.updateInPlace key current).bind fun next asked hread => ?_
  obtain ⟨hasked, hkey⟩ := hread
  have hnext : key? next = some key := hkey.trans hcurrent
  refine (h.updateAnew key next).bind fun anew asked' hasked' => ?_
  -- from here on it is one of the visits above, after what the strategy has read
  have hprefixed : ∀ (v : Visit) calls, VisitAccounts (ManagedObject.kind K) v calls →
      VisitAccounts (ManagedObject.kind K) v (asked ++ (asked' ++ calls)) :=
    fun v calls hcalls => hasked.append (hasked'.append hcalls)
  dsimp only
  split
  · exact (store_journaled hstore h current
      ((ManagedObject.key?_unschedule next).trans hnext)).imp hprefixed
  · split
    · exact (recreate_journaled hstore h set.now next).imp hprefixed
    · exact (store_journaled hstore h current
        ((ManagedObject.key?_schedule _ next).trans hnext)).imp hprefixed

theorem turnDown_journaled {current : K} (hcurrent : key? current = some key) :
    Noting withCalls Inv (VisitAccounts (ManagedObject.kind K))
      (turnDown store' strategy' key current) (turnDown store strategy key current) := by
  simp only [turnDown, failure_bind]
  by_cases hterm : isTerminating current = true
  · simp only [if_pos hterm]
    exact .pure .nil
  · simp only [if_neg hterm]
    refine (h.prepareForTurndown key current).bind fun prepared asked hprepared => ?_
    obtain ⟨hasked, hkey⟩ := hprepared
    obtain ⟨object, verdict⟩ := prepared
    cases verdict with
    | refuse why =>
        dsimp only
        by_cases heq : object = current
        · simp only [if_pos heq]
          exact (h.orphanStatus key object why).bind fun _ told htold =>
            .pure (hasked.append (htold.append .nil))
        · simp only [if_neg heq]
          refine (hstore.update object).bind fun answer called hcalled => ?_
          rw [show key? object = some key from hkey.trans hcurrent] at hcalled
          obtain rfl := hcalled
          cases answer with
          | ok written =>
              refine (h.orphanStatus key written why).bind fun _ told htold => .pure ?_
              exact hasked.append ((Accounts.done .update key written).append (htold.append .nil))
          | error e =>
              refine (h.objectError key _).bind fun _ told htold => ?_
              refine (h.orphanStatus key object why).bind fun _ told' htold' => .pure ?_
              exact hasked.append
                ((Accounts.failing rfl key e).append (htold.append (htold'.append .nil)))
    | allow =>
        refine (hstore.delete key).bind fun answer called hcalled => ?_
        obtain rfl := hcalled
        cases answer with
        | ok gone => exact .pure (hasked.append ((Accounts.done .delete key gone).append .nil))
        | error e =>
            refine (h.objectError key _).bind fun _ told htold => .pure ?_
            exact hasked.append ((Accounts.failing rfl key e).append (htold.append .nil))

end Visits

/-! ## Sets -/

/-- Visits one after another account for the failures of them all. -/
theorem mapM_journaled {ι : Type} (kind : String) {f : ι → StateM τ Visit} {g : ι → StateM σ Visit}
    {xs : List ι} (h : ∀ x ∈ xs, Noting withCalls Inv (VisitAccounts kind) (f x) (g x)) :
    Noting withCalls Inv (fun visits calls => Accounts kind (visits.filterMap (·.failure)) calls)
      (xs.mapM f) (xs.mapM g) := by
  induction xs with
  | nil => exact .pure .nil
  | cons x xs ih =>
      rw [List.mapM_cons, List.mapM_cons]
      refine (h x (List.mem_cons_self ..)).bind fun v first hfirst => ?_
      refine (ih fun y hy => h y (List.mem_cons_of_mem _ hy)).bind fun vs rest hrest => .pure ?_
      have hvisits : (v :: vs).filterMap (·.failure)
          = v.failure.toList ++ vs.filterMap (·.failure) := by
        cases hv : v.failure with
        | none => rw [List.filterMap_cons_none hv, Option.toList_none, List.nil_append]
        | some e => rw [List.filterMap_cons_some hv, Option.toList_some, List.singleton_append]
      rw [hvisits, List.append_nil]
      exact hfirst.append hrest

variable [DecidableEq K]

theorem visitAll_journaled (hstore : store'.Journals withCalls Inv store)
    (h : strategy'.Journals withCalls Inv strategy) (set : ObjectSet) {live : OrdMap ObjectKey K}
    (hlive : ∀ key object, live.get? key = some object → key? object = some key) :
    Noting withCalls Inv
      (fun visits calls => Accounts (ManagedObject.kind K) (visits.filterMap (·.failure)) calls)
      (visitAll store' strategy' set live) (visitAll store strategy set live) := by
  unfold visitAll
  refine (mapM_journaled (ManagedObject.kind K) fun key _ => ?_).bind fun desired first hfirst => ?_
  · unfold visitDesired
    cases hobject : live.get? key with
    | none => exact create_journaled hstore h
    | some current => exact update_journaled hstore h set (hlive key current hobject)
  · refine (mapM_journaled (ManagedObject.kind K) fun e he => ?_).bind fun unwanted rest hrest => .pure ?_
    · exact turnDown_journaled hstore h (hlive e.1 e.2 (mem_unwanted.1 he).1)
    · rw [List.filterMap_append, List.append_nil]
      exact hfirst.append hrest

end ObjectSet

/-- The failures that come of a set of objects; that they could not be listed is none of them. -/
def failuresOf : Except ReconcileError SetReport → List ObjectError
  | .ok report => report.errors
  | .error _ => []

/-- *Failures and the journal.* A reconciliation on a store that keeps a journal goes as it does without, and
of the calls in the journal that write, those that failed are the failures that it reports. -/
theorem ObjectSet.reconcile_journaled [DecidableEq K] {withCalls : σ → List Call → τ} {Inv : σ → Prop}
    {store' : ObjectStore τ K} {store : ObjectStore σ K} {strategy' : Strategy τ K}
    {strategy : Strategy σ K} (hstore : store'.Journals withCalls Inv store)
    (h : strategy'.Journals withCalls Inv strategy) (set : ObjectSet) :
    Noting withCalls Inv (fun outcome calls => Accounts (ManagedObject.kind K) (failuresOf outcome) calls)
      (set.reconcile store' strategy') (set.reconcile store strategy) := by
  unfold reconcile
  refine (hstore.list set.ns set.selector).bind fun answer listed hlisted => ?_
  have hread : Accounts (ManagedObject.kind K) [] listed := by
    rw [hlisted]
    exact .reading rfl _ _ _
  cases answer with
  | error e => exact .pure (hread.append .nil)
  | ok objects =>
      refine (visitAll_journaled hstore h set fun key object hobject =>
        (key?_of_live hobject).2).bind fun visits visited hvisited => .pure ?_
      rw [List.append_nil]
      exact hread.append hvisited

end TabletFleet
