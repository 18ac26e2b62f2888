import TabletFleet.Proofs.Reconcile.Listing
import TabletFleet.Proofs.Reconcile.Visit

set_option autoImplicit false

/-! # Recorded runs

What the reconciler asks of a strategy and what it writes to a store can be noted in a log beside the
world. Neither of the two sees the log, so a recorded run goes as it does without (`Records`), whatever
the store answers and whatever the strategy does. Of a single visit the log tells all: there are a few
ways in which it can go, and each leaves its own notes (`Episode`). -/

namespace TabletFleet

open ManagedObject (key? isTerminating)
open StateRun

/-! ## Notes -/

/-- What the reconciler turns to a strategy for. -/
inductive Question where
  | newObject
  | updateInPlace
  | updateAnew
  | status
  | orphanStatus
  | prepareForTurndown
  | objectError
deriving DecidableEq

/-- A visit begins with one of these questions. -/
def Question.isFirst : Question → Bool
  | .newObject | .updateInPlace | .prepareForTurndown => true
  | _ => false

/-- An answer that decides what is done about an object. -/
inductive Answer where
  /-- The changes that need the object to be made anew. -/
  | pending (changes : List String)
  /-- Whether the object may go. -/
  | verdict (verdict : Verdict)
deriving DecidableEq

/-- What the reconciler does, and what decides it. Reads are not noted. -/
inductive Note where
  | asked (question : Question) (key : ObjectKey)
  | answered (answer : Answer) (key : ObjectKey)
  /-- A call that writes, with the key that it was made for, and whether it succeeded. -/
  | wrote (verb : Verb) (key : Option ObjectKey) (done : Bool)
deriving DecidableEq

namespace Note

def key? : Note → Option ObjectKey
  | asked _ key => some key
  | answered _ key => some key
  | wrote _ key _ => key

def concerns (key : ObjectKey) (n : Note) : Bool := n.key? == some key

def isWrite : Note → Bool
  | wrote .. => true
  | _ => false

def isAnswer : Note → Bool
  | answered .. => true
  | _ => false

def isFirst : Note → Bool
  | asked question _ => question.isFirst
  | _ => false

/-- The call that failed. -/
def failed? : Note → Option (Verb × ObjectKey)
  | wrote verb key false => key.map (verb, ·)
  | _ => none

/-- The key of the failed call that the strategy is told of. -/
def toldOf? : Note → Option ObjectKey
  | asked .objectError key => some key
  | _ => none

theorem concerns_iff {key : ObjectKey} {n : Note} : n.concerns key = true ↔ n.key? = some key :=
  beq_iff_eq

end Note

/-! ## The recorder -/

/-- A world with a log. -/
structure Recorded (σ : Type) where
  world : σ
  log : List Note := []

namespace Recorded

variable {σ α : Type}

/-- Act on the world. -/
def onWorld (act : StateM σ α) : StateM (Recorded σ) α := fun s =>
  ((act s.world).1, { s with world := (act s.world).2 })

/-- Act on the world, and note it. -/
def noting (notes : α → List Note) (act : StateM σ α) : StateM (Recorded σ) α := fun s =>
  ((act s.world).1, ⟨(act s.world).2, s.log ++ notes (act s.world).1⟩)

end Recorded

variable {σ K : Type} [ManagedObject K]

def ObjectStore.recorded (store : ObjectStore σ K) : ObjectStore (Recorded σ) K where
  get key := Recorded.onWorld (store.get key)
  list ns selector := Recorded.onWorld (store.list ns selector)
  create object :=
    Recorded.noting (fun answer => [.wrote .create (key? object) answer.isOk]) (store.create object)
  update object :=
    Recorded.noting (fun answer => [.wrote .update (key? object) answer.isOk]) (store.update object)
  delete key := Recorded.noting (fun answer => [.wrote .delete key answer.isOk]) (store.delete key)

def Strategy.recorded (strategy : Strategy σ K) : Strategy (Recorded σ) K where
  newObject key := Recorded.noting (fun _ => [.asked .newObject key]) (strategy.newObject key)
  updateInPlace key object :=
    Recorded.noting (fun _ => [.asked .updateInPlace key]) (strategy.updateInPlace key object)
  updateAnew key object :=
    Recorded.noting (fun anew =>
      [.asked .updateAnew key, .answered (.pending (ObjectSet.pendingChanges anew object)) key])
      (strategy.updateAnew key object)
  status key object := Recorded.noting (fun _ => [.asked .status key]) (strategy.status key object)
  orphanStatus key object why :=
    Recorded.noting (fun _ => [.asked .orphanStatus key]) (strategy.orphanStatus key object why)
  prepareForTurndown key object :=
    Recorded.noting (fun answer =>
      [.asked .prepareForTurndown key, .answered (.verdict answer.2) key])
      (strategy.prepareForTurndown key object)
  objectError key e :=
    Recorded.noting (fun _ => [.asked .objectError key]) (strategy.objectError key e)

theorem Strategy.recorded_updateInPlace (strategy : Strategy σ K) (key : ObjectKey) (object : K) :
    strategy.recorded.updateInPlace key object =
      Recorded.noting (fun _ => [.asked .updateInPlace key]) (strategy.updateInPlace key object) := rfl

theorem Strategy.recorded_updateAnew (strategy : Strategy σ K) (key : ObjectKey) (object : K) :
    strategy.recorded.updateAnew key object =
      Recorded.noting (fun anew =>
        [.asked .updateAnew key, .answered (.pending (ObjectSet.pendingChanges anew object)) key])
        (strategy.updateAnew key object) := rfl

/-! ## Recorded programs -/

/-- A program with its recorder: it goes as it does without, and what it notes fits its answer. -/
def Records {α : Type} (P : α → List Note → Prop) (x : StateM (Recorded σ) α) (y : StateM σ α) :
    Prop :=
  ∀ s log, ∃ notes, x ⟨s, log⟩ = ((y s).1, ⟨(y s).2, log ++ notes⟩) ∧ P (y s).1 notes

namespace Records

variable {α β ι : Type} {P : α → List Note → Prop}

theorem pure {a : α} (h : P a []) :
    Records P (Pure.pure a) (Pure.pure a : StateM σ α) := by
  intro s log
  exact ⟨[], by rw [List.append_nil]; rfl, h⟩

/-- One noted act, and then the rest. -/
theorem note {noted : β → List Note} {act : StateM σ β} {f : β → StateM (Recorded σ) α}
    {g : β → StateM σ α}
    (h : ∀ s, Records (fun a notes => P a (noted (act s).1 ++ notes)) (f (act s).1) (g (act s).1)) :
    Records P (Recorded.noting noted act >>= f) (act >>= g) := by
  intro s log
  obtain ⟨notes, hrun, hnotes⟩ := h s (act s).2 (log ++ noted (act s).1)
  refine ⟨noted (act s).1 ++ notes, ?_, hnotes⟩
  rw [List.append_assoc] at hrun
  exact hrun

theorem bind {Q : α → β → List Note → Prop} {x : StateM (Recorded σ) α} {y : StateM σ α}
    {f : α → StateM (Recorded σ) β} {g : α → StateM σ β} (hx : Records P x y)
    (h : ∀ a, Records (Q a) (f a) (g a)) :
    Records (fun b notes => ∃ a first rest, notes = first ++ rest ∧ P a first ∧ Q a b rest)
      (x >>= f) (y >>= g) := by
  intro s log
  obtain ⟨first, hrun, hfirst⟩ := hx s log
  obtain ⟨rest, hrun', hrest⟩ := h (y s).1 (y s).2 (log ++ first)
  refine ⟨first ++ rest, ?_, (y s).1, first, rest, rfl, hfirst, hrest⟩
  rw [bind_apply, hrun, hrun', List.append_assoc]
  rfl

theorem imp {Q : α → List Note → Prop} {x : StateM (Recorded σ) α} {y : StateM σ α}
    (hx : Records P x y) (h : ∀ a notes, P a notes → Q a notes) : Records Q x y := by
  intro s log
  obtain ⟨notes, hrun, hnotes⟩ := hx s log
  exact ⟨notes, hrun, h _ _ hnotes⟩

end Records

/-! ## Ways in which a visit can go -/

/-- What a key is to a set of objects. -/
inductive Standing where
  /-- Desired, without a live object. -/
  | absent
  /-- Desired, with a live object that is made anew as soon as a change needs it, or not. -/
  | live (released : Bool)
  /-- Not desired, with a live object. -/
  | unwanted
  /-- Not desired, with a live object that is on its way out. -/
  | leaving
deriving DecidableEq

/-- What comes of a visit to a key, and what is noted of it. -/
inductive Episode (kind : String) (key : ObjectKey) : Standing → Visit → List Note → Prop where
  | skipped : Episode kind key .absent { key, outcome := .skipped } [.asked .newObject key]
  | created : Episode kind key .absent { key, outcome := .created }
      [.asked .newObject key, .wrote .create key true, .asked .status key]
  | createFailed (e : StoreError) : Episode kind key .absent
      { key, outcome := .failed, failure := some { kind, key, verb := .create, source := e } }
      [.asked .newObject key, .wrote .create key false, .asked .objectError key]
  | upToDate {released : Bool} (changes : List String) (h : changes = [] ∨ released = false) :
      Episode kind key (.live released) { key, outcome := .upToDate }
        [.asked .updateInPlace key, .asked .updateAnew key, .answered (.pending changes) key,
          .asked .status key]
  | updated {released : Bool} (changes : List String) (h : changes = [] ∨ released = false) :
      Episode kind key (.live released) { key, outcome := .updated }
        [.asked .updateInPlace key, .asked .updateAnew key, .answered (.pending changes) key,
          .wrote .update key true, .asked .status key]
  | updateFailed {released : Bool} (changes : List String) (h : changes = [] ∨ released = false)
      (e : StoreError) : Episode kind key (.live released)
      { key, outcome := .failed, failure := some { kind, key, verb := .update, source := e } }
      [.asked .updateInPlace key, .asked .updateAnew key, .answered (.pending changes) key,
        .wrote .update key false, .asked .objectError key, .asked .status key]
  | recreated (changes : List String) (h : changes ≠ []) :
      Episode kind key (.live true) { key, outcome := .recreated }
        [.asked .updateInPlace key, .asked .updateAnew key, .answered (.pending changes) key,
          .wrote .delete key true, .asked .status key]
  | recreateFailed (changes : List String) (h : changes ≠ []) (e : StoreError) :
      Episode kind key (.live true)
        { key, outcome := .failed, failure := some { kind, key, verb := .delete, source := e } }
        [.asked .updateInPlace key, .asked .updateAnew key, .answered (.pending changes) key,
          .wrote .delete key false, .asked .objectError key, .asked .status key]
  | terminating : Episode kind key .leaving { key, outcome := .terminating } []
  | kept (why : OrphanStatus) : Episode kind key .unwanted { key, outcome := .orphaned why }
      [.asked .prepareForTurndown key, .answered (.verdict (.refuse why)) key,
        .asked .orphanStatus key]
  | prepared (why : OrphanStatus) : Episode kind key .unwanted { key, outcome := .orphaned why }
      [.asked .prepareForTurndown key, .answered (.verdict (.refuse why)) key,
        .wrote .update key true, .asked .orphanStatus key]
  | prepareFailed (why : OrphanStatus) (e : StoreError) : Episode kind key .unwanted
      { key, outcome := .orphaned why
        failure := some { kind, key, verb := .update, source := e } }
      [.asked .prepareForTurndown key, .answered (.verdict (.refuse why)) key,
        .wrote .update key false, .asked .objectError key, .asked .orphanStatus key]
  | deleted : Episode kind key .unwanted { key, outcome := .deleted }
      [.asked .prepareForTurndown key, .answered (.verdict .allow) key, .wrote .delete key true]
  | deleteFailed (e : StoreError) : Episode kind key .unwanted
      { key, outcome := .failed, failure := some { kind, key, verb := .delete, source := e } }
      [.asked .prepareForTurndown key, .answered (.verdict .allow) key, .wrote .delete key false,
        .asked .objectError key]

theorem Episode.key_eq {kind : String} {key : ObjectKey} {standing : Standing} {v : Visit}
    {notes : List Note} (h : Episode kind key standing v notes) : v.key = key := by
  cases h <;> rfl

theorem Episode.concerns {kind : String} {key : ObjectKey} {standing : Standing} {v : Visit}
    {notes : List Note} (h : Episode kind key standing v notes) :
    ∀ n ∈ notes, n.concerns key = true := by
  cases h <;> simp [Note.concerns, Note.key?]

/-- The objects that a strategy makes have the key that they are made for, and those that it changes keep
their own. -/
structure Strategy.KeepsKeys (strategy : Strategy σ K) : Prop where
  newObject : ∀ key s object, (strategy.newObject key s).1 = some object → key? object = some key
  updateInPlace : ∀ key object s, key? (strategy.updateInPlace key object s).1 = key? object
  prepareForTurndown : ∀ key object s,
    key? (strategy.prepareForTurndown key object s).1.1 = key? object

namespace ObjectSet

open ManagedObject (mapMetadata metadata)

variable {store : ObjectStore σ K} {strategy : Strategy σ K} {key : ObjectKey}

theorem failure_bind {τ α : Type} (strategy : Strategy τ K) (key : ObjectKey) (verb : Verb)
    (e : StoreError) (f : ObjectError → StateM τ α) :
    failure strategy key verb e >>= f =
      strategy.objectError key { kind := ManagedObject.kind K, key, verb, source := e } >>= fun _ =>
        f { kind := ManagedObject.kind K, key, verb, source := e } := rfl

theorem create_records (h : strategy.KeepsKeys) :
    Records (Episode (ManagedObject.kind K) key .absent)
      (create store.recorded strategy.recorded key) (create store strategy key) := by
  simp only [create, failure_bind]
  simp only [Strategy.recorded, ObjectStore.recorded]
  refine .note fun s => ?_
  have hkey := h.newObject key s
  revert hkey
  generalize (strategy.newObject key s).1 = object?
  intro hkey
  cases object? with
  | none => exact .pure .skipped
  | some object =>
      refine .note fun s => ?_
      rw [hkey object rfl]
      cases (store.create object s).1 with
      | ok created => exact .note fun _ => .pure .created
      | error e => exact .note fun _ => .pure (.createFailed e)

/-- What is noted of an update, once the strategy has said what the object is to be. -/
abbrev UpdateNotes (kind : String) (key : ObjectKey) (released : Bool) (changes : List String)
    (v : Visit) (notes : List Note) : Prop :=
  Episode kind key (.live released) v
    (.asked .updateInPlace key :: .asked .updateAnew key :: .answered (.pending changes) key :: notes)

theorem recreate_records (now : Timestamp) (next : K) {changes : List String} (hchanges : changes ≠ []) :
    Records (UpdateNotes (ManagedObject.kind K) key true changes)
      (recreate store.recorded strategy.recorded now key next)
      (recreate store strategy now key next) := by
  simp only [recreate, failure_bind]
  simp only [Strategy.recorded, ObjectStore.recorded]
  refine .note fun s => ?_
  cases (store.delete key s).1 with
  | ok => exact .note fun _ => .pure (.recreated changes hchanges)
  | error e => exact .note fun _ => .note fun _ => .pure (.recreateFailed changes hchanges e)

variable [DecidableEq K]

theorem store_records (current : K) {next : K} (hnext : key? next = some key) {released : Bool}
    {changes : List String} (hchanges : changes = [] ∨ released = false) :
    Records (UpdateNotes (ManagedObject.kind K) key released changes)
      (ObjectSet.store store.recorded strategy.recorded key current next)
      (ObjectSet.store store strategy key current next) := by
  simp only [ObjectSet.store, failure_bind]
  simp only [Strategy.recorded, ObjectStore.recorded]
  by_cases heq : next = current
  · simp only [if_pos heq]
    exact .note fun _ => .pure (.upToDate changes hchanges)
  · simp only [if_neg heq]
    refine .note fun s => ?_
    rw [hnext]
    cases (store.update next s).1 with
    | ok written => exact .note fun _ => .pure (.updated changes hchanges)
    | error e => exact .note fun _ => .note fun _ => .pure (.updateFailed changes hchanges e)

/-- Changes to the object are carried out at once, even those that need it to be made anew. -/
def releases (set : ObjectSet) (current : K) : Bool :=
  set.releaseImmediately || (metadata current).released

theorem update_records (h : strategy.KeepsKeys) (set : ObjectSet) {current : K}
    (hcurrent : key? current = some key) :
    Records (Episode (ManagedObject.kind K) key (.live (set.releases current)))
      (update store.recorded strategy.recorded set key current)
      (update store strategy set key current) := by
  simp only [update, Strategy.recorded_updateInPlace, Strategy.recorded_updateAnew]
  refine .note fun s => ?_
  have hnext := (h.updateInPlace key current s).trans hcurrent
  refine .note fun s => ?_
  split
  · next hnone =>
      exact store_records current ((ManagedObject.key?_unschedule _).trans hnext)
        (.inl (List.isEmpty_iff.1 hnone))
  · next hsome =>
      split
      · next hreleased =>
          rw [show set.releases current = true from hreleased]
          exact recreate_records set.now _ fun hnone => hsome (List.isEmpty_iff.2 hnone)
      · next hkept =>
          exact store_records current ((ManagedObject.key?_schedule _ _).trans hnext)
            (.inr (Bool.eq_false_iff.2 hkept))

theorem turnDown_records (h : strategy.KeepsKeys) {current : K} (hcurrent : key? current = some key) :
    Records (Episode (ManagedObject.kind K) key
        (if isTerminating current then .leaving else .unwanted))
      (turnDown store.recorded strategy.recorded key current)
      (turnDown store strategy key current) := by
  simp only [turnDown, failure_bind]
  simp only [Strategy.recorded, ObjectStore.recorded]
  by_cases hterm : isTerminating current = true
  · simp only [if_pos hterm]
    exact .pure .terminating
  · simp only [if_neg hterm]
    refine .note fun s => ?_
    have hobject := (h.prepareForTurndown key current s).trans hcurrent
    revert hobject
    obtain ⟨object, verdict⟩ := (strategy.prepareForTurndown key current s).1
    intro hobject
    cases verdict with
    | refuse why =>
        dsimp only
        by_cases heq : object = current
        · simp only [if_pos heq]
          exact .note fun _ => .pure (.kept why)
        · simp only [if_neg heq]
          refine .note fun s => ?_
          rw [hobject]
          cases (store.update object s).1 with
          | ok written => exact .note fun _ => .pure (.prepared why)
          | error e => exact .note fun _ => .note fun _ => .pure (.prepareFailed why e)
    | allow =>
        refine .note fun s => ?_
        cases (store.delete key s).1 with
        | ok answer => exact .pure .deleted
        | error e => exact .note fun _ => .pure (.deleteFailed e)

end ObjectSet

/-! ## Visits in turn -/

/-- What came of visits to the keys in turn, and what was noted of them. -/
inductive Episodes (kind : String) (standing : ObjectKey → Option Standing) :
    List ObjectKey → List Visit → List Note → Prop where
  | nil : Episodes kind standing [] [] []
  | cons {key : ObjectKey} {s : Standing} {v : Visit} {notes : List Note} {keys : List ObjectKey}
      {vs : List Visit} {rest : List Note} (hkey : standing key = some s)
      (first : Episode kind key s v notes) (others : Episodes kind standing keys vs rest) :
      Episodes kind standing (key :: keys) (v :: vs) (notes ++ rest)

namespace Episodes

variable {kind : String} {standing : ObjectKey → Option Standing} {keys : List ObjectKey}
variable {vs : List Visit} {log : List Note}

theorem append {keys' : List ObjectKey} {vs' : List Visit} {log' : List Note}
    (h : Episodes kind standing keys vs log) (h' : Episodes kind standing keys' vs' log') :
    Episodes kind standing (keys ++ keys') (vs ++ vs') (log ++ log') := by
  induction h with
  | nil => exact h'
  | cons hkey first others ih =>
      rw [List.append_assoc]
      exact .cons hkey first ih

end Episodes

/-- Visits one after another, each of which goes as one to its key can go. -/
theorem Records.mapM {kind : String} {standing : ObjectKey → Option Standing} {ι : Type}
    {f : ι → StateM (Recorded σ) Visit} {g : ι → StateM σ Visit} {keyOf : ι → ObjectKey} {xs : List ι}
    (h : ∀ x ∈ xs, ∃ s, standing (keyOf x) = some s ∧ Records (Episode kind (keyOf x) s) (f x) (g x)) :
    Records (Episodes kind standing (xs.map keyOf)) (xs.mapM f) (xs.mapM g) := by
  induction xs with
  | nil => exact .pure .nil
  | cons x xs ih =>
      obtain ⟨s, hkey, hfirst⟩ := h x (List.mem_cons_self ..)
      have hrest := ih fun y hy => h y (List.mem_cons_of_mem _ hy)
      rw [List.mapM_cons, List.mapM_cons]
      refine (hfirst.bind fun v => hrest.bind fun vs => .pure (P := fun a notes =>
        notes = [] ∧ a = v :: vs) ⟨rfl, rfl⟩).imp ?_
      rintro _ _ ⟨v, notes, _, rfl, hv, vs, rest, _, rfl, hvs, rfl, rfl⟩
      rw [List.append_nil]
      exact .cons hkey hv hvs

namespace ObjectSet

/-- What a key is to the set, if it is visited at all. -/
def standing (set : ObjectSet) (live : OrdMap ObjectKey K) (key : ObjectKey) : Option Standing :=
  if key ∈ set.keys then
    some ((live.get? key).elim .absent fun current => .live (set.releases current))
  else (live.get? key).map fun object => if isTerminating object then .leaving else .unwanted

/-- An object is live under the key that it names. -/
theorem key?_of_live {objects : List K} {key : ObjectKey} {object : K}
    (h : (live objects).get? key = some object) : object ∈ objects ∧ key? object = some key := by
  rcases OrdMap.get?_insertMany_cases h with hmem | hempty
  · obtain ⟨object', hobject', heq⟩ := List.mem_filterMap.1 hmem
    obtain ⟨key', hkey, heq⟩ := Option.map_eq_some_iff.1 heq
    obtain ⟨rfl, rfl⟩ := Prod.mk.inj heq
    exact ⟨hobject', hkey⟩
  · rw [OrdMap.get?_empty] at hempty
    cases hempty

variable [DecidableEq K] {store : ObjectStore σ K} {strategy : Strategy σ K}

variable (store) in
theorem visitAll_records (h : strategy.KeepsKeys) (set : ObjectSet) {live : OrdMap ObjectKey K}
    (hlive : ∀ key object, live.get? key = some object → key? object = some key) :
    Records (Episodes (ManagedObject.kind K) (set.standing live) (set.visitOrder live))
      (visitAll store.recorded strategy.recorded set live) (visitAll store strategy set live) := by
  have hdesired : Records
      (Episodes (ManagedObject.kind K) (set.standing live) (set.keys.eraseDups.map id))
      (set.keys.eraseDups.mapM (visitDesired store.recorded strategy.recorded set live))
      (set.keys.eraseDups.mapM (visitDesired store strategy set live)) := by
    refine .mapM fun key hmem => ?_
    have hkey : key ∈ set.keys := List.mem_eraseDups.1 hmem
    rw [standing, id, if_pos hkey]
    refine ⟨_, rfl, ?_⟩
    unfold visitDesired
    cases hobject : live.get? key with
    | none => exact create_records h
    | some current => exact update_records h set (hlive key current hobject)
  have hunwanted : Records
      (Episodes (ManagedObject.kind K) (set.standing live) ((set.unwanted live).map (·.1)))
      ((set.unwanted live).mapM fun e => turnDown store.recorded strategy.recorded e.1 e.2)
      ((set.unwanted live).mapM fun e => turnDown store strategy e.1 e.2) := by
    refine .mapM fun e he => ?_
    obtain ⟨hobject, hkey⟩ := mem_unwanted.1 he
    rw [standing, if_neg hkey, hobject, Option.map_some]
    exact ⟨_, rfl, turnDown_records h (hlive e.1 e.2 hobject)⟩
  unfold visitAll
  refine (hdesired.bind fun desired => hunwanted.bind fun unwanted => .pure (P := fun vs notes =>
    notes = [] ∧ vs = desired ++ unwanted) ⟨rfl, rfl⟩).imp ?_
  rintro _ _ ⟨desired, first, _, rfl, hfirst, unwanted, rest, _, rfl, hrest, rfl, rfl⟩
  rw [List.append_nil, visitOrder, ← map_fst_unwanted]
  rw [List.map_id] at hfirst
  exact hfirst.append hrest

end ObjectSet

end TabletFleet
