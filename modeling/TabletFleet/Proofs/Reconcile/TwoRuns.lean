import TabletFleet.Proofs.Reconcile.Listing
import TabletFleet.Proofs.Reconcile.Visit
import TabletFleet.Proofs.Store.Stamps

set_option autoImplicit false

/-! # A sweep in two worlds

The same sweep with two stores, each in a world of its own. If the stores answer alike what fits them
(`ObjectStore.Agrees`), and no callback of the strategies tells the worlds apart or depends on stamps
(`Strategy.Agrees`), then the visits come to the same and the worlds are as near to each other afterwards
as they were before (`ObjectSet.visitAll_related`, and with the listing of the live objects
`ObjectSet.reconcile_related`). Every kind of visit is followed through both runs side by side. -/

namespace TabletFleet

open ManagedObject (key? mapMetadata metadata setMetadata)
open StateRun

variable {σ τ K : Type} [ManagedObject K]

/-! ## What has to agree at a key -/

/-- Calls on the object at a key are answered alike in related worlds, if what they store fits. -/
structure ObjectStore.Agrees (store : ObjectStore σ K) (store' : ObjectStore τ K) (key : ObjectKey)
    (R : σ → τ → Prop) (fits : K → Prop) : Prop where
  create : ∀ object, fits object →
    Related R AnswersAlike (store.create object) (store'.create object)
  update : ∀ object, fits object →
    Related R AnswersAlike (store.update object) (store'.update object)
  delete : Related R Eq (store.delete key) (store'.delete key)

/-- No callback for the given key tells related worlds apart, or objects that differ in their stamps. The
objects that are made fit, and those that are changed still do. -/
structure Strategy.Agrees (strategy : Strategy σ K) (strategy' : Strategy τ K) (key : ObjectKey)
    (R : σ → τ → Prop) (fits : K → Prop) : Prop where
  newObject : Related R (fun a b => a = b ∧ ∀ object, a = some object → fits object)
    (strategy.newObject key) (strategy'.newObject key)
  updateInPlace : ∀ object, fits object → Related R (fun a b => a = b ∧ fits a)
    (strategy.updateInPlace key object) (strategy'.updateInPlace key object)
  updateAnew : ∀ object, Related R Eq (strategy.updateAnew key object) (strategy'.updateAnew key object)
  status : ∀ a b, unstamped a = unstamped b →
    Related R Eq (strategy.status key a) (strategy'.status key b)
  orphanStatus : ∀ a b why, unstamped a = unstamped b →
    Related R Eq (strategy.orphanStatus key a why) (strategy'.orphanStatus key b why)
  prepareForTurndown : ∀ object, fits object → Related R (fun a b => a = b ∧ fits a.1)
    (strategy.prepareForTurndown key object) (strategy'.prepareForTurndown key object)
  objectError : ∀ e, Related R Eq (strategy.objectError key e) (strategy'.objectError key e)

/-- Whether an object fits does not depend on its labels and annotations. -/
def UnmarkedFits (fits : K → Prop) : Prop :=
  ∀ object labels annotations, fits object →
    fits (setMetadata object { metadata object with labels, annotations })

namespace ObjectSet

variable {store : ObjectStore σ K} {store' : ObjectStore τ K} {strategy : Strategy σ K}
variable {strategy' : Strategy τ K} {key : ObjectKey} {R : σ → τ → Prop} {fits : K → Prop}

/-! ## Visits -/

section Visits

variable (h : strategy.Agrees strategy' key R fits)
include h

theorem failure_related (verb : Verb) (e : StoreError) :
    Related R Eq (failure strategy key verb e) (failure strategy' key verb e) := by
  unfold failure
  exact (h.objectError _).bind fun _ _ _ => .pure rfl

variable (hstore : store.Agrees store' key R fits)
include hstore

theorem create_related :
    Related R Eq (create store strategy key) (create store' strategy' key) := by
  unfold create
  refine h.newObject.bind ?_
  rintro object _ ⟨rfl, hobject⟩
  cases object with
  | none => exact .pure rfl
  | some object =>
      refine (hstore.create object (hobject object rfl)).bind ?_
      rintro _ _ (halike | e)
      · exact (h.status _ _ halike).bind fun _ _ _ => .pure rfl
      · refine (failure_related h .create e).bind ?_
        rintro _ _ rfl
        exact .pure rfl

theorem recreate_related (now : Timestamp) (next : K) :
    Related R Eq (recreate store strategy now key next) (recreate store' strategy' now key next) := by
  unfold recreate
  refine hstore.delete.bind ?_
  rintro answer _ rfl
  cases answer with
  | ok => exact (h.status _ _ rfl).bind fun _ _ _ => .pure rfl
  | error e =>
      refine (failure_related h .delete e).bind ?_
      rintro _ _ rfl
      exact (h.status _ _ rfl).bind fun _ _ _ => .pure rfl

variable [DecidableEq K]

theorem store_related (current : K) {next : K} (hnext : fits next) :
    Related R Eq (ObjectSet.store store strategy key current next)
      (ObjectSet.store store' strategy' key current next) := by
  unfold ObjectSet.store
  by_cases heq : next = current
  · rw [if_pos heq, if_pos heq]
    exact (h.status _ _ rfl).bind fun _ _ _ => .pure rfl
  · rw [if_neg heq, if_neg heq]
    refine (hstore.update next hnext).bind ?_
    rintro _ _ (halike | e)
    · exact (h.status _ _ halike).bind fun _ _ _ => .pure rfl
    · refine (failure_related h .update e).bind ?_
      rintro _ _ rfl
      exact (h.status _ _ rfl).bind fun _ _ _ => .pure rfl

theorem turnDown_related {current : K} (hcurrent : fits current) :
    Related R Eq (turnDown store strategy key current) (turnDown store' strategy' key current) := by
  unfold turnDown
  by_cases hterm : ManagedObject.isTerminating current = true
  · rw [if_pos hterm, if_pos hterm]
    exact .pure rfl
  · rw [if_neg hterm, if_neg hterm]
    refine (h.prepareForTurndown current hcurrent).bind ?_
    rintro ⟨object, verdict⟩ _ ⟨rfl, hobject⟩
    cases verdict with
    | refuse why =>
        dsimp only
        by_cases heq : object = current
        · rw [if_pos heq, if_pos heq]
          exact (h.orphanStatus _ _ why rfl).bind fun _ _ _ => .pure rfl
        · rw [if_neg heq, if_neg heq]
          refine (hstore.update object hobject).bind ?_
          rintro _ _ (halike | e)
          · exact (h.orphanStatus _ _ why halike).bind fun _ _ _ => .pure rfl
          · refine (failure_related h .update e).bind ?_
            rintro _ _ rfl
            exact (h.orphanStatus _ _ why rfl).bind fun _ _ _ => .pure rfl
    | allow =>
        refine hstore.delete.bind ?_
        rintro answer _ rfl
        cases answer with
        | ok => exact .pure rfl
        | error e =>
            refine (failure_related h .delete e).bind ?_
            rintro _ _ rfl
            exact .pure rfl

variable (hmarks : UnmarkedFits fits)
include hmarks

theorem update_related (set : ObjectSet) {current : K} (hcurrent : fits current) :
    Related R Eq (update store strategy set key current) (update store' strategy' set key current) := by
  unfold update
  refine (h.updateInPlace current hcurrent).bind ?_
  rintro next _ ⟨rfl, hnext⟩
  refine (h.updateAnew next).bind ?_
  rintro anew _ rfl
  -- the same changes are pending in both runs
  dsimp only
  split
  · exact store_related h hstore current (hmarks next _ _ hnext)
  · split
    · exact recreate_related h hstore set.now next
    · exact store_related h hstore current (hmarks next _ _ hnext)

theorem visitDesired_related (set : ObjectSet) {live : OrdMap ObjectKey K}
    (hlive : ∀ object, live.get? key = some object → fits object) :
    Related R Eq (visitDesired store strategy set live key)
      (visitDesired store' strategy' set live key) := by
  unfold visitDesired
  cases hobject : live.get? key with
  | none => exact create_related h hstore
  | some current => exact update_related h hstore hmarks set (hlive current hobject)

end Visits

/-- All visits of a sweep come to the same in both worlds. -/
theorem visitAll_related [DecidableEq K] {set : ObjectSet} {live : OrdMap ObjectKey K}
    {fits : ObjectKey → K → Prop} (hmarks : ∀ key, UnmarkedFits (fits key))
    (h : ∀ key, key ∈ set.keys ∨ (live.get? key).isSome = true →
      strategy.Agrees strategy' key R (fits key) ∧ store.Agrees store' key R (fits key))
    (hlive : ∀ key object, live.get? key = some object → fits key object) :
    Related R Eq (visitAll store strategy set live) (visitAll store' strategy' set live) := by
  unfold visitAll
  refine (Related.mapM fun key hkey => ?_).bind ?_
  · obtain ⟨hstrategy, hstore⟩ := h key (.inl (List.mem_eraseDups.1 hkey))
    exact visitDesired_related hstrategy hstore (hmarks key) set (hlive key)
  · rintro desired _ rfl
    refine (Related.mapM fun e he => ?_).bind ?_
    · have hobject := (mem_unwanted.1 he).1
      obtain ⟨hstrategy, hstore⟩ := h e.1 (.inr (by rw [hobject]; rfl))
      exact turnDown_related hstrategy hstore (hlive e.1 e.2 hobject)
    · rintro unwanted _ rfl
      exact .pure rfl

theorem mem_of_get?_live {objects : List K} {object : K} (h : (live objects).get? key = some object) :
    object ∈ objects := by
  rcases OrdMap.get?_insertMany_cases h with hmem | hempty
  · obtain ⟨object', hobject', hkeyed⟩ := List.mem_filterMap.1 hmem
    obtain ⟨key', -, heq⟩ := Option.map_eq_some_iff.1 hkeyed
    rw [← (Prod.mk.inj heq).2]
    exact hobject'
  · cases hempty

/-- A sweep comes to the same in both worlds, if the same objects are listed and all of them fit. -/
theorem reconcile_related [DecidableEq K] {set : ObjectSet} (hmarks : UnmarkedFits fits)
    (h : ∀ key, strategy.Agrees strategy' key R fits ∧ store.Agrees store' key R fits)
    (hlist : Related R (fun a b => a = b ∧ ∀ objects, a = .ok objects → ∀ object ∈ objects, fits object)
      (store.list set.ns set.selector) (store'.list set.ns set.selector)) :
    Related R Eq (reconcile store strategy set) (reconcile store' strategy' set) := by
  unfold reconcile
  refine hlist.bind ?_
  rintro answer _ ⟨rfl, hfit⟩
  cases answer with
  | error e => exact .pure rfl
  | ok objects =>
      have hlive : ∀ key object, (live objects).get? key = some object → fits object :=
        fun key object hobject => hfit objects rfl object (mem_of_get?_live hobject)
      refine (visitAll_related (fun _ => hmarks) (fun key _ => h key) hlive).bind ?_
      rintro visits _ rfl
      exact .pure rfl

end ObjectSet

end TabletFleet
