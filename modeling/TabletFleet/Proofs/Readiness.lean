import TabletFleet.Proofs.Pass.Entries
import TabletFleet.Proofs.Pass.Frame
import TabletFleet.Proofs.Pass.Recreation
import TabletFleet.Proofs.Timestamp

set_option autoImplicit false

/-! # Readiness and availability

A tablet is reported as ready when its pod says so, was found and is still there, and as available when
it has been ready for the whole window (`Shard.readiness_reported`). A pass that reports a ready tablet
as not available asks to be repeated after the window, and no other pass does. What is available stays
so as long as nothing changes. -/

namespace TabletFleet

/-! ## Ready pods -/

/-- Of the conditions of the given type, this is the first. -/
def Condition.IsFirst (type : String) (c : Condition) (conditions : List Condition) : Prop :=
  ∃ earlier later, conditions = earlier ++ c :: later ∧ c.type = type ∧ ∀ e ∈ earlier, e.type ≠ type

theorem Condition.find?_eq_some {type : String} {c : Condition} {conditions : List Condition} :
    find? type conditions = some c ↔ c.IsFirst type conditions := by
  rw [find?, List.find?_eq_some_iff_append]
  simp only [beq_iff_eq, Bool.not_eq_true', beq_eq_false_iff_ne]
  exact ⟨fun ⟨htype, earlier, later, heq, hne⟩ => ⟨earlier, later, heq, htype, hne⟩,
    fun ⟨earlier, later, heq, htype, hne⟩ => ⟨htype, earlier, later, heq, hne⟩⟩

namespace Pod

/-- The condition that tells whether the pod is ready: the first of this type. -/
def FirstReady (p : Pod) (c : Condition) : Prop :=
  ∃ status conditions, p.status = some status ∧ status.conditions = some conditions ∧
    c.IsFirst "Ready" conditions

variable {p : Pod} {c : Condition}

theorem readyCondition?_eq_some : p.readyCondition? = some c ↔ p.FirstReady c := by
  unfold readyCondition? FirstReady
  simp only [Option.bind_eq_bind, Option.bind_eq_some_iff, Condition.find?_eq_some]
  exact ⟨fun ⟨status, hstatus, conditions, hconditions, hfirst⟩ =>
      ⟨status, conditions, hstatus, hconditions, hfirst⟩,
    fun ⟨status, conditions, hstatus, hconditions, hfirst⟩ =>
      ⟨status, hstatus, conditions, hconditions, hfirst⟩⟩

theorem FirstReady.unique {c' : Condition} (hc : p.FirstReady c) (hc' : p.FirstReady c') : c = c' :=
  Option.some.inj ((readyCondition?_eq_some.2 hc).symm.trans (readyCondition?_eq_some.2 hc'))

/-- A pod serves when it is not on its way out and its condition says that it is ready. -/
theorem isServing_iff : p.isServing = true ↔
    p.metadata.deletionTimestamp = none ∧ ∃ c, p.FirstReady c ∧ c.status = "True" := by
  rw [isServing, Bool.and_eq_true, Bool.not_eq_true', ObjectMeta.isTerminating_eq_false, and_comm]
  refine and_congr_right fun _ => ?_
  simp only [← readyCondition?_eq_some, isReady]
  cases p.readyCondition? with
  | none => simp
  | some c => simp [Condition.isTrue]

/-- A pod that serves is available just when its condition has held for the window, and awaited
otherwise. -/
theorem availability_of_serving (h : p.isServing = true) (hc : p.FirstReady c) (now : Timestamp) :
    p.availability now = if heldForWindow c now then .available else .awaited := by
  rw [isServing, Bool.and_eq_true, Bool.not_eq_true'] at h
  rw [← readyCondition?_eq_some] at hc
  have hready : c.isTrue = true := by
    rw [← h.1, isReady, hc]
  rw [availability, if_neg (by rw [h.2]; decide), hc]
  dsimp only
  rw [hready, Bool.true_and]

theorem heldForWindow_iff {now : Timestamp} : heldForWindow c now = true ↔
    ∀ t, c.lastTransitionTime = some t → 30 * (Timestamp.nanosPerSecond : Int) ≤ now.since t := by
  unfold heldForWindow
  cases c.lastTransitionTime with
  | none => simp
  | some t =>
      simp only [Option.some.injEq, forall_eq', decide_eq_true_eq]
      rfl

theorem available_iff_of_serving (h : p.isServing = true) (hc : p.FirstReady c) (now : Timestamp) :
    p.availability now = .available ↔ heldForWindow c now = true := by
  rw [availability_of_serving h hc]
  cases heldForWindow c now <;> decide

/-- Whether a serving pod's tablet is available is either known or awaited. -/
theorem awaited_of_serving {now : Timestamp} (h : p.isServing = true) :
    p.availability now = .awaited ↔ p.availability now ≠ .available := by
  obtain ⟨-, c, hc, -⟩ := isServing_iff.1 h
  rw [availability_of_serving h hc]
  cases heldForWindow c now <;> decide

/-- The pod serves, but its tablet is not available yet. -/
def isAwaited (p : Pod) (now : Timestamp) : Bool := p.isServing && p.availability now == .awaited

/-- The times of a stored pod's conditions are in whole seconds. -/
theorem wholeSeconds_of_firstReady (hwritten : ManagedObject.written p = p) (hc : p.FirstReady c)
    {t : Timestamp} (ht : c.lastTransitionTime = some t) : t.wholeSeconds = t := by
  obtain ⟨status, conditions, hstatus, hconditions, earlier, later, rfl, -⟩ := hc
  have hwrittenStatus : p.status.map (·.written) = p.status := congrArg Pod.status hwritten
  rw [hstatus, Option.map_some, Option.some.injEq] at hwrittenStatus
  have hwrittenConditions : status.conditions.map (·.map Condition.written) = status.conditions :=
    congrArg PodStatus.conditions hwrittenStatus
  rw [hconditions, Option.map_some, Option.some.injEq] at hwrittenConditions
  have hcondition : c.written = c :=
    List.map_inj_left.1 (hwrittenConditions.trans (List.map_id' _).symm) c (by simp)
  have htime := congrArg Condition.lastTransitionTime hcondition
  rw [Condition.written, ht, Option.map_some, Option.some.injEq] at htime
  exact htime

end Pod

theorem ConditionStatus.ofBool_eq_yes {b : Bool} : ofBool b = .yes ↔ b = true := by
  cases b <;> decide

/-! ## What is told of desired pods -/

/-- An object that is replaced, if it has to be, is told of as it was or as it was to be. -/
theorem ObjectSet.told_replace {K : Type} [ManagedObject K] [DecidableEq K] (now : Timestamp)
    (inPlace : K → K) (current next : K) (failed : Bool) :
    ∃ object, told now inPlace (some current) (.replace current next) failed = some object ∧
      (object = current ∨ object = next) := by
  unfold Action.replace
  split
  · exact ⟨current, rfl, .inl rfl⟩
  · cases failed with
    | false => exact ⟨next, rfl, .inr rfl⟩
    | true => exact ⟨current, rfl, .inl rfl⟩

namespace Shard

section Told

variable {shard : Shard} {now : Timestamp} {w : MemoryStore} {key : ObjectKey} {p : Pod}

variable (now) in
/-- A pod that is found is told of with its own status. It is on its way out if it was before, or if it is
removed to be made anew. -/
theorem podTold_of_found (hkey : key ∈ shard.keys) (hp : shard.found Pod w key = some p) :
    ∃ q, shard.podTold now (shard.afterClaims now w) key = some q ∧ q.status = p.status ∧
      (q.metadata.deletionTimestamp = none ↔ p.metadata.deletionTimestamp = none ∧
        ¬(shard.ToBeRemade now w key ∧ w.rejects .delete key.name = false)) := by
  obtain ⟨t, ht⟩ := exists_byKey hkey
  have hlive := shard.livePods_eq_found now w key
  have hrejects := shard.rejects_afterClaims now w .delete key.name
  have hcall : shard.podAction now (shard.afterClaims now w) key (some p) = _ :=
    podAction_found ht _ p
  simp only [podTold, podFailure?, livePods_afterClaims, hlive, hp, ToBeRemade]
  generalize shard.podAction now (shard.afterClaims now w) key (some p) = a at hcall ⊢
  split at hcall
  · subst hcall
    have hnext : shard.podInPlace key p = shard.podNext t p := by rw [podInPlace, ht]
    simp only [ObjectSet.told, Action.failureIn?, Action.failure?, hrejects, hnext, Option.map_some,
      true_and]
    cases w.rejects .delete key.name with
    | true => exact ⟨_, rfl, rfl, (and_iff_left (by decide)).symm⟩
    | false =>
        -- it is gone, and told of as on its way out
        refine ⟨_, rfl, rfl, iff_of_false (fun hnone => ?_) fun h => h.2 rfl⟩
        exact absurd (Option.or_eq_none_iff.1 hnone).2 (Option.some_ne_none now)
  · obtain ⟨q, htold, hq⟩ := ObjectSet.told_replace now (shard.podInPlace key) p
      (shard.podKept t (t.resizedIn (shard.afterClaims now w) key) p)
      (a.failureIn? key (shard.afterClaims now w)).isSome
    rw [← hcall] at htold
    have hstays : ¬(a = .delete ∧ w.rejects .delete key.name = false) := fun h =>
      Action.replace_ne_delete _ _ (hcall.symm.trans h.1)
    refine ⟨q, htold, ?_⟩
    rw [and_iff_left hstays]
    rcases hq with rfl | rfl
    · exact ⟨rfl, Iff.rfl⟩
    · exact ⟨rfl, Iff.rfl⟩

/-- A desired pod that is not found is told of as a new one, if at all. -/
theorem isServing_of_not_found (hkey : key ∈ shard.keys) (hnone : shard.found Pod w key = none) :
    ∀ q, shard.podTold now (shard.afterClaims now w) key = some q → q.isServing = false := by
  obtain ⟨t, ht⟩ := exists_byKey hkey
  have hlive := shard.livePods_eq_found now w key
  have hcall : shard.podAction now (shard.afterClaims now w) key none = .create (t.newPod key) := by
    rw [podAction, ht]
  intro q hq
  simp only [podTold, livePods_afterClaims, hlive, hnone, hcall, ObjectSet.told] at hq
  split at hq
  · cases hq
  · obtain rfl := Option.some.inj hq
    rfl

end Told

/-! ## Pods that are ready throughout -/

section Ready

variable {shard : Shard} {topology : Topology} {config : PassConfig} {now : Timestamp}
variable {w : MemoryStore} {key : ObjectKey} {c : Condition}

/-- A pod at the key is listed by a pass, and after the pass it is still there, not on its way out, and by
this condition ready. -/
structure ReadyThrough (shard : Shard) (topology : Topology) (config : PassConfig) (now : Timestamp)
    (w : MemoryStore) (key : ObjectKey) (c : Condition) : Prop where
  listed : ∃ p, w.fetch? Pod key = some p ∧ p.metadata.isListed shard.ns shard.labels = true
  ready : ∃ p', (shard.afterPass topology config now w).fetch? Pod key = some p' ∧
    p'.metadata.deletionTimestamp = none ∧ p'.FirstReady c ∧ c.status = "True"

variable (topology config) in
theorem afterPass_eq_none_iff (hkey : key ∈ shard.keys) {p : Pod}
    (hp : shard.found Pod w key = some p) :
    (shard.afterPass topology config now w).fetch? Pod key = none ↔
      shard.ToBeRemade now w key ∧ w.rejects .delete key.name = false := by
  obtain ⟨n, hafter⟩ := pod_desired now w topology config hkey
  rw [hafter, found_eq_some hp, Action.leaves_eq_none_iff, livePods_eq_found, ToBeRemade]

/-- Whether a pod is ready throughout a pass is seen beforehand: it is found, ready, and not to be made
anew. -/
theorem readyThrough_iff (hkey : key ∈ shard.keys) :
    shard.ReadyThrough topology config now w key c ↔
      ∃ p, shard.found Pod w key = some p ∧ p.metadata.deletionTimestamp = none ∧ p.FirstReady c ∧
        c.status = "True" ∧ ¬(shard.ToBeRemade now w key ∧ w.rejects .delete key.name = false) := by
  constructor
  · rintro ⟨⟨p, hp, hlisted⟩, p', hp', hstays, hready, htrue⟩
    have hfound : shard.found Pod w key = some p := Option.filter_eq_some_iff.2 ⟨hp, hlisted⟩
    obtain ⟨hmetadata, -, hstatus⟩ := pod_kept hp hp'
    rw [hmetadata.rest] at hstays
    rw [Pod.FirstReady, hstatus] at hready
    refine ⟨p, hfound, hstays, hready, htrue, fun hgone => ?_⟩
    rw [(afterPass_eq_none_iff topology config hkey hfound).2 hgone] at hp'
    cases hp'
  · rintro ⟨p, hfound, hstays, hready, htrue, hkept⟩
    obtain ⟨hp, hlisted⟩ := Option.filter_eq_some_iff.1 hfound
    rw [← afterPass_eq_none_iff topology config hkey hfound] at hkept
    obtain ⟨p', hp'⟩ := Option.ne_none_iff_exists'.1 hkept
    obtain ⟨hmetadata, -, hstatus⟩ := pod_kept hp hp'
    refine ⟨⟨p, hp, hlisted⟩, p', hp', ?_, ?_, htrue⟩
    · rw [hmetadata.rest]
      exact hstays
    · rw [Pod.FirstReady, hstatus]
      exact hready

/-- The pods that serve, as the status is told of them, are those that are ready throughout the pass. -/
theorem podTold_serving_iff (topology : Topology) (config : PassConfig) (hkey : key ∈ shard.keys) :
    (∃ q, shard.podTold now (shard.afterClaims now w) key = some q ∧ q.isServing = true ∧
        q.FirstReady c) ↔ shard.ReadyThrough topology config now w key c := by
  rw [readyThrough_iff hkey]
  cases hfound : shard.found Pod w key with
  | none =>
      refine iff_of_false ?_ fun ⟨p, hp, _⟩ => nomatch hp
      rintro ⟨q, hq, hserving, -⟩
      rw [isServing_of_not_found hkey hfound q hq] at hserving
      cases hserving
  | some p =>
      obtain ⟨q, hq, hstatus, hgoing⟩ := podTold_of_found now hkey hfound
      have hready : q.FirstReady c ↔ p.FirstReady c := by
        rw [Pod.FirstReady, hstatus, Pod.FirstReady]
      simp only [hq, Option.some.injEq, exists_eq_left', Pod.isServing_iff, hgoing, hready]
      constructor
      · rintro ⟨⟨⟨hstays, hkept⟩, c', hc', htrue⟩, hc⟩
        obtain rfl := hc'.unique (hready.2 hc)
        exact ⟨hstays, hc, htrue, hkept⟩
      · rintro ⟨hstays, hc, htrue, hkept⟩
        exact ⟨⟨⟨hstays, hkept⟩, c, hready.2 hc, htrue⟩, hc⟩

end Ready

/-! ## Reported readiness -/

section Reported

variable {shard : Shard} {now : Timestamp} {w : MemoryStore} {key : ObjectKey}

/-- Readiness and availability are reported as the pod tells them that the status is told of. -/
theorem readiness_podEntry (hkey : key ∈ shard.keys) (entry : TabletStatus) :
    let told := shard.podTold now (shard.afterClaims now w) key
    let reported := shard.podEntry now (shard.afterClaims now w) key entry
    reported.ready = .ofBool (told.any (·.isServing)) ∧ reported.available =
      .ofBool (told.any fun q => q.isServing && q.availability now == .available) := by
  have hlive := shard.livePods_eq_found now w key
  simp only [podEntry, livePods_afterClaims, hlive]
  cases htold : shard.podTold now (shard.afterClaims now w) key with
  | some q => exact ⟨rfl, rfl⟩
  | none =>
      cases hfound : shard.found Pod w key with
      | none =>
          simp only [TabletStatus.noteFailure_eq]
          exact ⟨rfl, rfl⟩
      | some p =>
          obtain ⟨q, hq, -⟩ := podTold_of_found now hkey hfound
          cases htold.symm.trans hq

variable (topology : Topology) (config : PassConfig) {t : TabletSpec} {entry : TabletStatus}

theorem reported_readiness (ht : t ∈ shard.tablets)
    (h : (shard.reportedTablets topology config now w).get? t.identity.text = some entry) :
    let told := shard.podTold now (shard.afterClaims now w) (t.key shard.ns)
    entry.ready = .ofBool (told.any (·.isServing)) ∧ entry.available =
      .ofBool (told.any fun q => q.isServing && q.availability now == .available) := by
  have hkey : t.key shard.ns ∈ shard.keys := List.mem_map_of_mem ht
  rw [reported_entry topology config now w (textAt_of_mem ht)] at h
  obtain ⟨before, -, rfl⟩ := Option.map_eq_some_iff.1 h
  exact readiness_podEntry hkey before

/-- A tablet is reported as ready when its pod is ready throughout the pass. -/
theorem reported_ready_iff (ht : t ∈ shard.tablets)
    (h : (shard.reportedTablets topology config now w).get? t.identity.text = some entry) :
    entry.ready = .yes ↔ ∃ c, shard.ReadyThrough topology config now w (t.key shard.ns) c := by
  have hkey : t.key shard.ns ∈ shard.keys := List.mem_map_of_mem ht
  rw [(reported_readiness topology config ht h).1, ConditionStatus.ofBool_eq_yes,
    Option.any_eq_true]
  simp only [← podTold_serving_iff topology config hkey]
  constructor
  · rintro ⟨q, hq, hserving⟩
    obtain ⟨-, c, hc, -⟩ := Pod.isServing_iff.1 hserving
    exact ⟨c, q, hq, hserving, hc⟩
  · rintro ⟨c, q, hq, hserving, -⟩
    exact ⟨q, hq, hserving⟩

/-- A tablet is reported as available when its pod is ready throughout the pass, and has been for the
window. -/
theorem reported_available_iff (ht : t ∈ shard.tablets)
    (h : (shard.reportedTablets topology config now w).get? t.identity.text = some entry) :
    entry.available = .yes ↔ ∃ c, shard.ReadyThrough topology config now w (t.key shard.ns) c ∧
      Pod.heldForWindow c now = true := by
  have hkey : t.key shard.ns ∈ shard.keys := List.mem_map_of_mem ht
  rw [(reported_readiness topology config ht h).2, ConditionStatus.ofBool_eq_yes,
    Option.any_eq_true]
  simp only [← podTold_serving_iff topology config hkey, Bool.and_eq_true, beq_iff_eq]
  constructor
  · rintro ⟨q, hq, hserving, havailable⟩
    obtain ⟨-, c, hc, -⟩ := Pod.isServing_iff.1 hserving
    exact ⟨c, ⟨q, hq, hserving, hc⟩, (Pod.available_iff_of_serving hserving hc now).1 havailable⟩
  · rintro ⟨c, ⟨q, hq, hserving, hc⟩, hheld⟩
    exact ⟨q, hq, hserving, (Pod.available_iff_of_serving hserving hc now).2 hheld⟩

/-- A tablet is reported as ready and not available when the pod that the status is told of is awaited. -/
theorem reported_waiting_iff (ht : t ∈ shard.tablets)
    (h : (shard.reportedTablets topology config now w).get? t.identity.text = some entry) :
    (entry.ready = .yes ∧ entry.available ≠ .yes) ↔
      (shard.podTold now (shard.afterClaims now w) (t.key shard.ns)).any
        (·.isAwaited now) = true := by
  obtain ⟨hready, havailable⟩ := reported_readiness topology config ht h
  rw [hready, havailable]
  simp only [ne_eq, ConditionStatus.ofBool_eq_yes]
  cases shard.podTold now (shard.afterClaims now w) (t.key shard.ns) with
  | none => simp
  | some q =>
      simp only [Option.any_some, Pod.isAwaited, Bool.and_eq_true, beq_iff_eq, not_and]
      refine and_congr_right fun hserving => ?_
      rw [Pod.awaited_of_serving hserving]
      exact ⟨fun hnot => hnot hserving, fun hnot _ => hnot⟩

end Reported

/-! ## When to look again -/

/-- A pod that is awaited makes the pass ask to be repeated after the window, and no other pod does. -/
theorem requeueAfter_notePod {notes : Int64 × Option Duration}
    (h : notes.2 = none ∨ notes.2 = some availabilityWindow) (now : Timestamp) (q? : Option Pod) :
    (notePod now notes q?).2 =
      if q?.any (·.isAwaited now) then some availabilityWindow else notes.2 := by
  cases q? with
  | none => rfl
  | some q =>
      -- a second request is for the same time
      have hrequested : (PassResult.requeue { requeueAfter := notes.2 }
          availabilityWindow).requeueAfter = some availabilityWindow := by
        rcases h with hnone | hsome
        · rw [hnone]
          rfl
        · rw [hsome]
          rfl
      rw [notePod, hrequested, Option.any_some, Pod.isAwaited]

theorem requeueAfter_notePods (now : Timestamp) (told : ObjectKey → Option Pod) (keys : List ObjectKey)
    (notes : Int64 × Option Duration) (h : notes.2 = none ∨ notes.2 = some availabilityWindow) :
    (keys.foldl (fun notes key => notePod now notes (told key)) notes).2 =
      if keys.any fun key => (told key).any (·.isAwaited now) then some availabilityWindow
      else notes.2 := by
  induction keys generalizing notes with
  | nil => rfl
  | cons key keys ih =>
      have hnoted := requeueAfter_notePod h now (told key)
      have hnext : (notePod now notes (told key)).2 = none ∨
          (notePod now notes (told key)).2 = some availabilityWindow := by
        rw [hnoted]
        split
        · exact .inr rfl
        · exact h
      rw [List.foldl_cons, ih _ hnext, hnoted, List.any_cons]
      cases (told key).any (·.isAwaited now) with
      | true => rw [if_pos rfl, ite_self, Bool.true_or, if_pos rfl]
      | false => rw [Bool.false_or]; rfl

/-! ## Readiness, availability and requeue -/

section Report

variable (shard : Shard) (topology : Topology) (config : PassConfig) (now : Timestamp)
variable (w : MemoryStore)

/-- Some tablet is reported as ready, but not as available. -/
def SomeWaits (tablets : OrdMap String TabletStatus) : Prop :=
  ∃ text entry, tablets.get? text = some entry ∧ entry.ready = .yes ∧ entry.available ≠ .yes

theorem someWaits_iff : SomeWaits (shard.reportedTablets topology config now w) ↔
    (shard.keys.eraseDups.any fun key =>
      (shard.podTold now (shard.afterClaims now w) key).any (·.isAwaited now)) = true := by
  rw [List.any_eq_true]
  constructor
  · rintro ⟨text, entry, hentry, hwaits⟩
    obtain ⟨t, ht, rfl⟩ := shard.tablet_of_reported topology config now w hentry
    exact ⟨t.key shard.ns, List.mem_eraseDups.2 (List.mem_map_of_mem ht),
      (reported_waiting_iff topology config ht hentry).1 hwaits⟩
  · rintro ⟨key, hkey, hawaited⟩
    obtain ⟨t, ht, rfl⟩ := List.mem_map.1 (List.mem_eraseDups.1 hkey)
    obtain ⟨entry, hentry⟩ := exists_reported topology config now w ht
    exact ⟨_, entry, hentry, (reported_waiting_iff topology config ht hentry).2 hawaited⟩

/-- When a pass asks to be repeated. -/
def requeueAfter : Option Duration :=
  (shard.reconcileAt topology config now w).1.result.requeueAfter

/-- A pass asks to be repeated after the window just when some tablet waits for it. -/
theorem requeueAfter_eq :
    (SomeWaits (shard.reportedTablets topology config now w) →
        shard.requeueAfter topology config now w = some availabilityWindow) ∧
      (¬SomeWaits (shard.reportedTablets topology config now w) →
        shard.requeueAfter topology config now w = none) := by
  have hnotes := shard.reported_notes topology config now w
  have hfold := requeueAfter_notePods now (shard.podTold now (shard.afterClaims now w))
    shard.keys.eraseDups (0, none) (.inl rfl)
  rw [someWaits_iff, requeueAfter]
  generalize (shard.reconcileAt topology config now w).1 = report at hnotes ⊢
  rw [show report.result.requeueAfter = _ from congrArg Prod.snd hnotes, hfold]
  exact ⟨fun hwaits => if_pos hwaits, fun hnone => if_neg hnone⟩

variable {shard w} {key : ObjectKey} {c : Condition} {later : Timestamp}

/-- What a pass makes of a pod that is ready does not depend on when it looks. -/
theorem ReadyThrough.at_any_time {topology : Topology} {config : PassConfig} {now : Timestamp}
    (topology' : Topology) (config' : PassConfig) (later : Timestamp) (hkey : key ∈ shard.keys)
    (h : shard.ReadyThrough topology config now w key c) :
    shard.ReadyThrough topology' config' later w key c := by
  rw [readyThrough_iff hkey] at h ⊢
  exact h

/-- What has been ready for the window stays so. -/
theorem ReadyThrough.heldForWindow_mono {topology : Topology} {config : PassConfig}
    {now : Timestamp} (h : shard.ReadyThrough topology config now w key c) (hle : now ≤ later)
    (hheld : Pod.heldForWindow c now = true) : Pod.heldForWindow c later = true := by
  obtain ⟨p', hp', -, hready, -⟩ := h.ready
  generalize shard.afterPass topology config now w = after at hp'
  rw [Pod.heldForWindow_iff] at hheld ⊢
  intro t ht
  have hwhole : t.wholeSeconds = t :=
    Pod.wholeSeconds_of_firstReady (after.pods.written hp') hready ht
  exact Timestamp.halfMinute_since_mono hwhole hle (hheld t ht)

end Report

/-- *Readiness, availability and requeue agree.* A tablet is reported as ready just when its pod is listed,
is still there after the pass and not on its way out, and is ready by the first of its conditions that
says so or not; and as available just when, besides, that condition has no time of its last change, or one
that is at least half a minute ago. A time to come never is. The pass asks to be repeated after half a
minute if some tablet is reported as ready and not as available, and else it does not ask. So if nothing
changes in the store, what is available stays available. -/
theorem readiness_reported (shard : Shard) (topology : Topology) (config : PassConfig)
    (now : Timestamp) (w : MemoryStore) :
    let tablets := shard.reportedTablets topology config now w
    let window := 30 * (Timestamp.nanosPerSecond : Int)
    (∀ t ∈ shard.tablets, ∃ entry, tablets.get? t.identity.text = some entry ∧
      (entry.ready = .yes ↔ ∃ c, shard.ReadyThrough topology config now w (t.key shard.ns) c) ∧
      (entry.available = .yes ↔
        ∃ c, shard.ReadyThrough topology config now w (t.key shard.ns) c ∧
          ∀ s, c.lastTransitionTime = some s → window ≤ now.since s)) ∧
    (∀ s, now ≤ s → now.since s < window) ∧
    (SomeWaits tablets → shard.requeueAfter topology config now w = some (.ofSeconds 30)) ∧
    (¬SomeWaits tablets → shard.requeueAfter topology config now w = none) ∧
    ∀ later, now ≤ later → ∀ topology' config' text entry,
      tablets.get? text = some entry → entry.available = .yes →
        ∃ entry', (shard.reportedTablets topology' config' later w).get? text = some entry' ∧
          entry'.available = .yes := by
  intro tablets window
  obtain ⟨hwaits, hnone⟩ := shard.requeueAfter_eq topology config now w
  refine ⟨fun t ht => ?_, fun s hle => ?_, hwaits, hnone, ?_⟩
  · obtain ⟨entry, hentry⟩ := exists_reported topology config now w ht
    refine ⟨entry, hentry, reported_ready_iff topology config ht hentry, ?_⟩
    simp only [reported_available_iff topology config ht hentry, Pod.heldForWindow_iff]
    rfl
  · have hsecond := Timestamp.since_lt_of_le hle
    simp only [window, Timestamp.nanosPerSecond] at hsecond ⊢
    omega
  · intro later hle topology' config' text entry hentry hyes
    obtain ⟨t, ht, rfl⟩ := shard.tablet_of_reported topology config now w hentry
    have hkey : t.key shard.ns ∈ shard.keys := List.mem_map_of_mem ht
    obtain ⟨c, hc, hheld⟩ := (reported_available_iff topology config ht hentry).1 hyes
    obtain ⟨entry', hentry'⟩ := exists_reported topology' config' later w ht
    refine ⟨entry', hentry', (reported_available_iff topology' config' ht hentry').2 ⟨c, ?_, ?_⟩⟩
    · exact hc.at_any_time topology' config' later hkey
    · exact hc.heldForWindow_mono hle hheld

/-- A pod that has become ready just now is looked at again. -/
example : (sample 1).requeueAfter .sample {} .sample (.ofPods [{ samplePod sampleFirst .empty with
    status := some { conditions := some [
      { type := "Ready", status := "True", lastTransitionTime := some .sample }] } }])
      = some (.ofSeconds 30) := by
  decide +kernel

end Shard

end TabletFleet
