import TabletFleet.Proofs.Reconcile.Listing
import TabletFleet.Proofs.Reconcile.Visit
import TabletFleet.Proofs.Store.Stamps

set_option autoImplicit false

/-! # What visits come to

A visit makes one call, and then it tells the strategy: of the failure, if the call failed, and of the
object as it is now. Whether the call fails (`Action.failure?`) and what the object is now
(`ObjectSet.told`) follows from the call and from what is stored at the key. So the state after a visit
can be written down (`ObjectSet.visitDesired_eq`, `ObjectSet.turnDown_eq`), if the strategy does not look
at the stamps of what it is told. -/

namespace TabletFleet

open ManagedObject (metadata mapMetadata key?)
open StateRun

/-! ## Failed calls -/

namespace Action

variable {K : Type} [Stored K]

/-- The failure of the call, if it fails. -/
def failure? (a : Action K) (key : ObjectKey) (rejects : Verb → Bool) (stored : Option K) :
    Option ObjectError :=
  let kind := ManagedObject.kind K
  let rejected (verb : Verb) : ObjectError := { kind, key, verb, source := .rejected verb kind key }
  match a with
  | .rest => none
  | .create _ =>
    if rejects .create then some (rejected .create)
    else if stored.isSome then
      some { kind, key, verb := .create, source := .alreadyExists kind key }
    else none
  | .update _ =>
    if rejects .update then some (rejected .update)
    else if stored.isSome then none
    else some { kind, key, verb := .update, source := .notFound kind key }
  | .delete => if rejects .delete then some (rejected .delete) else none

/-- The failure of the call, made on a store. -/
abbrev failureIn? (a : Action K) (key : ObjectKey) (s : MemoryStore) : Option ObjectError :=
  a.failure? key (s.rejects · key.name) (s.fetch? K key)

/-- Whether a call fails is decided by what is rejected and by what is stored at its key. -/
theorem failureIn?_congr {s s' : MemoryStore} {key : ObjectKey}
    (hrejects : ∀ verb, s'.rejects verb key.name = s.rejects verb key.name)
    (hstored : (s'.fetch? K key).isSome = (s.fetch? K key).isSome) (a : Action K) :
    a.failureIn? key s' = a.failureIn? key s := by
  cases a <;> simp only [failureIn?, failure?, hrejects, hstored]

theorem failureIn?_of_unchanged {s s' : MemoryStore} {key : ObjectKey}
    (hrejections : s'.rejections = s.rejections) (hstored : s'.fetch? K key = s.fetch? K key)
    (a : Action K) : a.failureIn? key s' = a.failureIn? key s :=
  failureIn?_congr (fun verb => by rw [MemoryStore.rejects, hrejections, MemoryStore.rejects])
    (by rw [hstored]) a

theorem create_failed_or_stored (object : K) (key : ObjectKey) (rejects : Verb → Bool) (stamp : Stamp)
    (stored : Option K) :
    (((create object).failure? key rejects stored).isSome = true ∧
        (create object).leaves rejects stamp stored = stored) ∨
      ((create object).failure? key rejects stored = none ∧ stored = none ∧
        (create object).leaves rejects stamp stored = some (storedAs stamp true object)) := by
  simp only [failure?, leaves]
  cases rejects .create with
  | true => exact .inl ⟨rfl, rfl⟩
  | false =>
      cases stored with
      | none => exact .inr ⟨rfl, rfl, rfl⟩
      | some _ => exact .inl ⟨rfl, rfl⟩

theorem update_failed_or_stored (object : K) (key : ObjectKey) (rejects : Verb → Bool) (stamp : Stamp)
    (stored : Option K) :
    (((update object).failure? key rejects stored).isSome = true ∧
        (update object).leaves rejects stamp stored = stored) ∨
      ((update object).failure? key rejects stored = none ∧
        (update object).leaves rejects stamp stored = some (storedAs stamp false object)) := by
  simp only [failure?, leaves]
  cases rejects .update with
  | true => exact .inl ⟨rfl, rfl⟩
  | false =>
      cases stored with
      | none => exact .inl ⟨rfl, rfl⟩
      | some _ => exact .inr ⟨rfl, rfl⟩

variable {key : ObjectKey} {rejects : Verb → Bool} {stored : Option K} {object : K} {e : ObjectError}

theorem failure?_create (h : (create object).failure? key rejects stored = some e) :
    e = { kind := ManagedObject.kind K, key, verb := .create, source := e.source } := by
  simp only [failure?] at h
  split at h
  · rw [← Option.some.inj h]
  · split at h
    · rw [← Option.some.inj h]
    · cases h

theorem failure?_update (h : (update object).failure? key rejects stored = some e) :
    e = { kind := ManagedObject.kind K, key, verb := .update, source := e.source } := by
  simp only [failure?] at h
  split at h
  · rw [← Option.some.inj h]
  · split at h
    · cases h
    · rw [← Option.some.inj h]

theorem failure?_delete (h : (delete (K := K)).failure? key rejects stored = some e) :
    e = { kind := ManagedObject.kind K, key, verb := .delete, source := e.source } := by
  simp only [failure?] at h
  split at h
  · rw [← Option.some.inj h]
  · cases h

end Action

namespace MemoryStore

variable {K : Type} [Stored K]

theorem create_answer_eq {key : ObjectKey} {object : K} (h : key? object = some key)
    (s : MemoryStore) : ((calls K).create object s).1 =
      match (Action.create object).failureIn? key s with
      | none => .ok (stampedAs s.nextStamp true object)
      | some e => .error e.source := by
  rw [calls_create_apply s key object h]
  simp only [Action.failure?]
  split
  · rfl
  · split <;> rfl

theorem update_answer_eq {key : ObjectKey} {object : K} (h : key? object = some key)
    (s : MemoryStore) : ((calls K).update object s).1 =
      match (Action.update object).failureIn? key s with
      | none => .ok (stampedAs s.nextStamp false object)
      | some e => .error e.source := by
  rw [calls_update_apply s key object h]
  simp only [Action.failure?]
  split
  · rfl
  · split <;> rfl

theorem delete_answer_eq (key : ObjectKey) (s : MemoryStore) : ((calls K).delete key s).1 =
    match (Action.delete (K := K)).failureIn? key s with
    | none => .ok ()
    | some e => .error e.source := by
  rw [calls_delete_apply]
  simp only [Action.failure?]
  split <;> rfl

end MemoryStore

/-- The calls of a plan that fail, in their order. -/
def Plan.failures {K : Type} [Stored K] (p : Plan K) (s : MemoryStore) : List ObjectError :=
  p.entries.filterMap fun e => e.2.failureIn? e.1 s

/-- When the visits of a sweep fail as their calls do, the sweep reports the calls that fail. -/
theorem ObjectSet.errors_eq_failures {K : Type} [Stored K] {set : ObjectSet}
    {live : OrdMap ObjectKey K} {desired : ObjectKey → Action K}
    {unwanted : ObjectKey → K → Action K} {p : Plan K}
    (hp : p.entries = set.calls live desired unwanted) {s : MemoryStore} {report : SetReport}
    (h : report.visits.map (·.failure) =
      set.keys.eraseDups.map (fun key => (desired key).failureIn? key s) ++
        (set.unwanted live).map fun e => (unwanted e.1 e.2).failureIn? e.1 s) :
    report.errors = p.failures s := by
  have herrors : report.errors = (report.visits.map (·.failure)).filterMap id := by
    rw [List.filterMap_map]
    rfl
  rw [Plan.failures, hp, herrors, h, ObjectSet.calls, List.filterMap_append, List.filterMap_append,
    List.filterMap_map, List.filterMap_map, List.filterMap_map, List.filterMap_map]
  rfl

/-! ## What the strategy is told -/

/-- The strategy does not look at the stamps of what it is told. -/
structure Strategy.IgnoresStamps {σ K : Type} [ManagedObject K] (strategy : Strategy σ K) : Prop where
  status : ∀ key a b, unstamped a = unstamped b → strategy.status key a = strategy.status key b
  orphanStatus : ∀ key a b why, unstamped a = unstamped b →
    strategy.orphanStatus key a why = strategy.orphanStatus key b why

namespace ObjectSet

section Told

variable {σ K : Type} [ManagedObject K]

/-- An object that has just been asked to go. -/
def going (now : Timestamp) (object : K) : K :=
  mapMetadata (fun m => { m with deletionTimestamp := m.deletionTimestamp.or now }) object

/-- The desired object as it is once the call has been made, stamps apart: what has been written, or what
there was before. One that is to be made anew is told of as it was to be in place. -/
def told (now : Timestamp) (inPlace : K → K) (live : Option K) (a : Action K) (failed : Bool) :
    Option K :=
  match a with
  | .rest => live
  | .create object => if failed then none else some object
  | .update object => if failed then live else some object
  | .delete => live.map fun current =>
    if failed then inPlace current else going now (inPlace current)

/-- The state once the strategy has been told of a failed call. -/
def noteFailure (strategy : Strategy σ K) (key : ObjectKey) (failure? : Option ObjectError) (s : σ) :
    σ :=
  match failure? with
  | none => s
  | some e => (strategy.objectError key e s).2

/-- The state once the strategy has been told of the object. -/
def noteObject (strategy : Strategy σ K) (key : ObjectKey) (object? : Option K) (s : σ) : σ :=
  match object? with
  | none => s
  | some object => (strategy.status key object s).2

/-- The state once the strategy has been told of an unwanted object that is kept. -/
def noteOrphan (strategy : Strategy σ K) (key : ObjectKey) (prepared : K × Verdict) (s : σ) : σ :=
  match prepared.2 with
  | .allow => s
  | .refuse why => (strategy.orphanStatus key prepared.1 why s).2

/-- The state in which the call for a desired key is made. -/
def beforeCall (strategy : Strategy σ K) (live : Option K) (key : ObjectKey) (s : σ) : σ :=
  match live with
  | none => (strategy.newObject key s).2
  | some current =>
    let next := strategy.updateInPlace key current s
    (strategy.updateAnew key next.1 next.2).2

end Told

/-- Unless it is deleted, the strategy is told of the object as it is found in the end, but for what the store
changes in writing it. -/
theorem told_eq_found {K α : Type} [Stored K] (now : Timestamp) (inPlace : K → K) {a : Action K}
    {key : ObjectKey} {rejects : Verb → Bool} {finds : K → Bool} {stored after : Option K} {stamp : Stamp}
    (hafter : after = a.leaves rejects stamp stored) (hdelete : a ≠ .delete)
    (hcreate : ∀ object, a = .create object → stored.filter finds = none)
    (hupdate : ∀ object, a = .update object → (stored.filter finds).isSome = true)
    (hfinds : (∀ object, stored = some object → finds object = true) →
      ∀ object, after = some object → finds object = true)
    {f : K → Option α} (hf : ∀ stamp isNew object, f (storedAs stamp isNew object) = f object) :
    (told now inPlace (stored.filter finds) a (a.failure? key rejects stored).isSome).bind f
      = (after.filter finds).bind f := by
  cases a with
  | rest => rw [hafter]; rfl
  | delete => exact absurd rfl hdelete
  | create object =>
      obtain ⟨hfailed, hleaves⟩ | ⟨hfailed, hnone, hleaves⟩ :=
        Action.create_failed_or_stored object key rejects stamp stored
      · rw [hafter, hleaves, hcreate object rfl, told, if_pos hfailed]
      · rw [hleaves] at hafter
        have hfound : finds (storedAs stamp true object) = true :=
          hfinds (fun _ hobject => nomatch hnone.symm.trans hobject) _ hafter
        rw [hafter, hfailed, Option.filter_some, if_pos hfound, Option.bind_some, hf]
        rfl
  | update object =>
      have hlive := hupdate object rfl
      obtain ⟨hfailed, hleaves⟩ | ⟨hfailed, hleaves⟩ :=
        Action.update_failed_or_stored object key rejects stamp stored
      · rw [hafter, hleaves, told, if_pos hfailed]
      · obtain ⟨current, hcurrent⟩ := Option.isSome_iff_exists.1 hlive
        obtain ⟨rfl, hfound⟩ := Option.filter_eq_some_iff.1 hcurrent
        rw [hleaves] at hafter
        have hfound' : finds (storedAs stamp false object) = true :=
          hfinds (fun _ hobject => Option.some.inj hobject ▸ hfound) _ hafter
        rw [hafter, hfailed, hcurrent, Option.filter_eq_some_iff.2 ⟨rfl, hfound'⟩, Option.bind_some, hf]
        rfl

/-! ## Visits to desired keys -/

section Desired

variable {K : Type} [Stored K] {strategy : Strategy (PassState MemoryStore) K}
variable {key : ObjectKey} {s : PassState MemoryStore}

theorem create_eq (hstrategy : strategy.IgnoresStamps)
    (hnew : ∀ object, (strategy.newObject key s).1 = some object → key? object = some key)
    (now : Timestamp) (inPlace : K → K) :
    let a := createAction (strategy.newObject key s).1
    let before := (strategy.newObject key s).2
    let failure? := a.failureIn? key before.world
    let visit := create (passCalls K) strategy key s
    visit.1.failure = failure? ∧
      visit.2 = noteObject strategy key (told now inPlace none a failure?.isSome)
        (noteFailure strategy key failure? (before.act a key)) := by
  simp only [create, bind_apply]
  cases hobject : (strategy.newObject key s).1 with
  | none => exact ⟨rfl, rfl⟩
  | some object =>
      simp only [bind_apply, create_apply key, createAction,
        MemoryStore.create_answer_eq (hnew object hobject)]
      cases hfailure : (Action.create object).failureIn? key (strategy.newObject key s).2.world with
      | none =>
          have hstamps := hstrategy.status key _ _
            (unstamped_stampedAs (strategy.newObject key s).2.world.nextStamp true object)
          simp only [bind_apply, hstamps]
          exact ⟨rfl, rfl⟩
      | some e =>
          rw [Action.failure?_create hfailure]
          exact ⟨rfl, rfl⟩

theorem recreate_eq (now : Timestamp) (current : K) (inPlace : K → K) :
    let a := Action.delete (K := K)
    let failure? := a.failureIn? key s.world
    let visit := recreate (passCalls K) strategy now key (inPlace current) s
    visit.1.failure = failure? ∧
      visit.2 = noteObject strategy key (told now inPlace (some current) a failure?.isSome)
        (noteFailure strategy key failure? (s.act a key)) := by
  simp only [recreate, bind_apply, delete_apply, MemoryStore.delete_answer_eq]
  cases hfailure : (Action.delete (K := K)).failureIn? key s.world with
  | none => exact ⟨rfl, rfl⟩
  | some e =>
      rw [Action.failure?_delete hfailure]
      exact ⟨rfl, rfl⟩

variable [DecidableEq K]

theorem store_eq (hstrategy : strategy.IgnoresStamps) (now : Timestamp) (current : K) {next : K}
    (hnext : key? next = some key) (inPlace : K → K) :
    let a := Action.replace current next
    let failure? := a.failureIn? key s.world
    let visit := ObjectSet.store (passCalls K) strategy key current next s
    visit.1.failure = failure? ∧
      visit.2 = noteObject strategy key (told now inPlace (some current) a failure?.isSome)
        (noteFailure strategy key failure? (s.act a key)) := by
  unfold ObjectSet.store
  by_cases heq : next = current
  · simp only [Action.replace, if_pos heq]
    exact ⟨rfl, rfl⟩
  · simp only [Action.replace, if_neg heq, bind_apply, update_apply key,
      MemoryStore.update_answer_eq hnext]
    cases hfailure : (Action.update next).failureIn? key s.world with
    | none =>
        have hstamps := hstrategy.status key _ _
          (unstamped_stampedAs s.world.nextStamp false next)
        simp only [bind_apply, hstamps]
        exact ⟨rfl, rfl⟩
    | some e =>
        rw [Action.failure?_update hfailure]
        exact ⟨rfl, rfl⟩

theorem update_eq (hstrategy : strategy.IgnoresStamps) (set : ObjectSet) {current : K}
    (hcurrent : key? (strategy.updateInPlace key current s).1 = some key) :
    let a := desiredAction strategy set (some current) key s
    let before := beforeCall strategy (some current) key s
    let failure? := a.failureIn? key before.world
    let visit := update (passCalls K) strategy set key current s
    visit.1.failure = failure? ∧
      visit.2 = noteObject strategy key
        (told set.now (fun c => (strategy.updateInPlace key c s).1) (some current) a failure?.isSome)
        (noteFailure strategy key failure? (before.act a key)) := by
  simp only [update, bind_apply, desiredAction, updateAction, beforeCall]
  split
  · exact store_eq hstrategy set.now current
      ((ManagedObject.key?_unschedule _).trans hcurrent) _
  · split
    · exact recreate_eq set.now current (fun c => (strategy.updateInPlace key c s).1)
    · exact store_eq hstrategy set.now current
        ((ManagedObject.key?_schedule _ _).trans hcurrent) _

/-- A visit to a desired key makes its call, and then notes what came of it. -/
theorem visitDesired_eq (hstrategy : strategy.IgnoresStamps) (set : ObjectSet)
    (live : OrdMap ObjectKey K)
    (hnew : ∀ object, (strategy.newObject key s).1 = some object → key? object = some key)
    (hlive : ∀ current, live.get? key = some current →
      key? (strategy.updateInPlace key current s).1 = some key) :
    let a := desiredAction strategy set (live.get? key) key s
    let before := beforeCall strategy (live.get? key) key s
    let failure? := a.failureIn? key before.world
    let visit := visitDesired (passCalls K) strategy set live key s
    visit.1.failure = failure? ∧
      visit.2 = noteObject strategy key
        (told set.now (fun c => (strategy.updateInPlace key c s).1) (live.get? key) a failure?.isSome)
        (noteFailure strategy key failure? (before.act a key)) := by
  unfold visitDesired
  cases hcurrent : live.get? key with
  | none => exact create_eq hstrategy hnew set.now _
  | some current => exact update_eq hstrategy set (hlive current hcurrent)

end Desired

/-! ## Visits to unwanted objects -/

/-- A visit to an unwanted object that is not on its way out makes its call, and then notes what came of
it. -/
theorem turnDown_eq {K : Type} [Stored K] [DecidableEq K]
    {strategy : Strategy (PassState MemoryStore) K} (hstrategy : strategy.IgnoresStamps)
    {key : ObjectKey} {current : K} {s : PassState MemoryStore}
    (hterm : ManagedObject.isTerminating current = false)
    (hcurrent : key? (strategy.prepareForTurndown key current s).1.1 = some key) :
    let prepared := strategy.prepareForTurndown key current s
    let a := turnDownAction current prepared.1
    let failure? := a.failureIn? key prepared.2.world
    let visit := turnDown (passCalls K) strategy key current s
    visit.1.failure = failure? ∧
      visit.2 = noteOrphan strategy key prepared.1
        (noteFailure strategy key failure? (prepared.2.act a key)) := by
  simp only [turnDown, turnDownAction, hterm, Bool.false_eq_true, if_false, bind_apply]
  revert hcurrent
  obtain ⟨⟨object, verdict⟩, before⟩ := strategy.prepareForTurndown key current s
  intro hcurrent
  cases verdict with
  | refuse why =>
      by_cases heq : object = current
      · simp only [Action.replace, if_pos heq]
        exact ⟨rfl, rfl⟩
      · simp only [Action.replace, if_neg heq, bind_apply, update_apply key,
          MemoryStore.update_answer_eq hcurrent]
        cases hfailure : (Action.update object).failureIn? key before.world with
        | none =>
            have hstamps := hstrategy.orphanStatus key _ _ why
              (unstamped_stampedAs before.world.nextStamp false object)
            simp only [bind_apply, hstamps]
            exact ⟨rfl, rfl⟩
        | some e =>
            rw [Action.failure?_update hfailure]
            exact ⟨rfl, rfl⟩
  | allow =>
      simp only [bind_apply, delete_apply, MemoryStore.delete_answer_eq]
      cases hfailure : (Action.delete (K := K)).failureIn? key before.world with
      | none => exact ⟨rfl, rfl⟩
      | some e =>
          rw [Action.failure?_delete hfailure]
          exact ⟨rfl, rfl⟩

end ObjectSet

end TabletFleet
