import Mathlib.Data.Option.Basic
import TabletFleet.Proofs.Pass.Frame

set_option autoImplicit false

/-! # Which pods have to be restarted

A pod is made anew for two reasons only: it was made from another specification than the one that is
desired now, or the file system on its volume waits to be resized. Whatever the cluster and others have
put into the pod since, in its specification, its status or its metadata, is no reason
(`Shard.podPending_eq_nil_iff`). What an update does about it shows in the rollout markers
(`Shard.restart_detected_iff_due`). -/

namespace TabletFleet

open ManagedObject (key?)
open StateRun

/-! ## Resizes that are due -/

theorem Quantity.same_iff {a b : Quantity} :
    a.same b = true ↔ ∃ amount, a.amount? = some amount ∧ b.amount? = some amount := by
  unfold same
  cases a.amount? with
  | none => simp
  | some x =>
      cases b.amount? with
      | none => simp
      | some y =>
          rw [beq_iff_eq]
          constructor
          · rintro rfl
            exact ⟨x, rfl, rfl⟩
          · rintro ⟨amount, hx, hy⟩
            rw [Option.some.inj hx, Option.some.inj hy]

theorem Claim.resizeTarget?_eq_some {t : TabletSpec} {c : Claim} {size : Quantity} :
    c.resizeTarget? t = some size ↔
      t.claimTemplate.bind (·.requestedStorage?) = some size ∧
      (∃ live, c.spec.bind (·.requestedStorage?) = some live ∧ size.same live = true) ∧
      ∃ pending, (c.status.bind (·.conditions)).bind (Condition.find? resizePending) = some pending ∧
        pending.isTrue = true := by
  simp only [resizeTarget?, Option.bind_eq_bind, Option.bind_eq_some_iff, Option.pure_def,
    Option.some.injEq, Option.guard_eq_some', exists_and_left]
  constructor
  · rintro ⟨want, ⟨template, htemplate, hwant⟩, live, ⟨spec, hspec, hlive⟩, hsame, -, status, hstatus,
      conditions, hconditions, pending, hpending, htrue, -, rfl⟩
    exact ⟨⟨template, htemplate, hwant⟩, ⟨live, ⟨spec, hspec, hlive⟩, hsame⟩,
      ⟨pending, ⟨conditions, ⟨status, hstatus, hconditions⟩, hpending⟩, htrue⟩⟩
  · rintro ⟨⟨template, htemplate, hwant⟩, ⟨live, ⟨spec, hspec, hlive⟩, hsame⟩,
      ⟨pending, ⟨conditions, ⟨status, hstatus, hconditions⟩, hpending⟩, htrue⟩⟩
    exact ⟨size, ⟨template, htemplate, hwant⟩, live, ⟨spec, hspec, hlive⟩, hsame, (), status, hstatus,
      conditions, hconditions, pending, hpending, htrue, (), rfl⟩

namespace TabletSpec

/-- The tablet's claim can be looked up and requests the template's storage of the given size, in
whatever spelling; and the first of its conditions on the matter says that its volume has grown ahead of
its file system. -/
def ResizeDue (t : TabletSpec) (w : MemoryStore) (key : ObjectKey) (size : Quantity) : Prop :=
  w.rejects .get key.name = false ∧
    ∃ claim, w.fetch? Claim key = some claim ∧
      t.claimTemplate.bind (·.requestedStorage?) = some size ∧
      (∃ live amount, claim.spec.bind (·.requestedStorage?) = some live ∧
        size.amount? = some amount ∧ live.amount? = some amount) ∧
      ∃ pending, (claim.status.bind (·.conditions)).bind (Condition.find? resizePending)
        = some pending ∧ pending.status = "True"

/-- A resize is due just when the claim that is found has a target for it. -/
theorem resizeDue_iff {t : TabletSpec} {w : MemoryStore} {key : ObjectKey} {size : Quantity} :
    t.ResizeDue w key size ↔
      (if w.rejects .get key.name then none else w.fetch? Claim key).bind (·.resizeTarget? t)
        = some size := by
  unfold ResizeDue
  cases w.rejects .get key.name with
  | true => simp
  | false =>
      have htarget : ∀ c : Claim, c.resizeTarget? t = some size ↔ _ := fun c =>
        Claim.resizeTarget?_eq_some
      simp only [Bool.false_eq_true, if_false, true_and, Option.bind_eq_some_iff, htarget,
        Quantity.same_iff, Condition.isTrue, beq_iff_eq, exists_and_left]

/-- The size that is waited for is all that is put among the tablet's annotations. -/
theorem get?_annotations_resizedIn {t : TabletSpec} (w : MemoryStore) (key : ObjectKey)
    (hresize : t.annotations.get? AnnotationKey.filesystemResize = none) {k v : String} :
    (t.resizedIn w key).annotations.get? k = some v ↔
      t.annotations.get? k = some v ∨
        (k = AnnotationKey.filesystemResize ∧ ∃ size, t.ResizeDue w key size ∧ size.text = v) := by
  simp only [resizeDue_iff, resizedIn, markResize]
  cases (if w.rejects .get key.name then none else w.fetch? Claim key).bind (·.resizeTarget? t) with
  | none => simp
  | some size =>
      simp only [OrdMap.get?_insert, Option.some.injEq, exists_eq_left']
      by_cases hk : k = AnnotationKey.filesystemResize
      · rw [if_pos hk, hk, hresize]
        simp
      · simp [hk]

theorem podSpec_resizedIn (t : TabletSpec) (w : MemoryStore) (key : ObjectKey) :
    (t.resizedIn w key).podSpec = t.podSpec := by
  unfold resizedIn markResize
  split <;> rfl

end TabletSpec

/-! ## Pending changes -/

namespace Shard

/-- Making a pod anew leaves its annotations just when they record the hash already, and all that would be
put on it. -/
theorem anewAnnotations_eq_self {anew : TabletSpec} {a : StringMap}
    (hspec : anew.annotations.get? AnnotationKey.specHash = none) :
    anewAnnotations anew a = a ↔
      a.get? AnnotationKey.specHash = some anew.podSpec.hash ∧
        ∀ k v, anew.annotations.get? k = some v → a.get? k = some v := by
  constructor
  · intro hsame
    refine ⟨?_, fun k v hv => ?_⟩
    · rw [← hsame, anewAnnotations, OrdMap.get?_insert, if_pos rfl]
    · have hne : k ≠ AnnotationKey.specHash := by
        rintro rfl
        rw [hspec] at hv
        cases hv
      rw [← hsame, anewAnnotations, OrdMap.get?_insert, if_neg hne, OrdMap.get?_merge, hv,
        Option.some_or]
  · rintro ⟨hhash, hput⟩
    refine OrdMap.ext_get? fun k => ?_
    rw [anewAnnotations, OrdMap.get?_insert, OrdMap.get?_merge]
    split
    · next hk => rw [hk, hhash]
    · cases hv : anew.annotations.get? k with
      | none => rw [Option.none_or]
      | some v => rw [Option.some_or, hput k v hv]

section Pending

variable {shard : Shard} {t : TabletSpec} {p : Pod}

/-- No changes of a live desired pod are pending just when it was made from the specification that is
desired now, and no resize is due that it was not made for. -/
theorem podPending_eq_nil_iff (w : MemoryStore) (key : ObjectKey)
    (hspec : t.annotations.get? AnnotationKey.specHash = none)
    (hgeneration : t.annotations.get? AnnotationKey.observedGeneration = none)
    (hresize : t.annotations.get? AnnotationKey.filesystemResize = none) :
    shard.podPending t (t.resizedIn w key) p = [] ↔
      p.metadata.annotation? AnnotationKey.specHash = some t.podSpec.hash ∧
        ∀ size, t.ResizeDue w key size →
          p.metadata.annotation? AnnotationKey.filesystemResize = some size.text := by
  let anew := t.resizedIn w key
  have hspec' : anew.annotations.get? AnnotationKey.specHash = none := by
    refine Option.eq_none_iff_forall_ne_some.2 fun v hv => ?_
    rcases (TabletSpec.get?_annotations_resizedIn w key hresize).1 hv with hv | ⟨hk, -⟩
    · rw [hspec] at hv
      cases hv
    · exact absurd hk (by decide)
  -- of the annotations in question none is the tablet's own, so those of the pod are found
  have hown : ∀ k, k ≠ AnnotationKey.observedGeneration → t.annotations.get? k = none →
      (shard.nextAnnotations t p).get? k = p.metadata.annotation? k := by
    intro k hk hnone
    rw [get?_nextAnnotations, podAnnotations, OrdMap.get?_insert, if_neg hk, hnone, Option.none_or]
  have hput : ∀ k v, t.annotations.get? k = some v → (shard.nextAnnotations t p).get? k = some v := by
    intro k v hv
    have hk : k ≠ AnnotationKey.observedGeneration := by
      rintro rfl
      rw [hgeneration] at hv
      cases hv
    rw [get?_nextAnnotations, podAnnotations, OrdMap.get?_insert, if_neg hk, hv, Option.some_or]
  have hsame : anewAnnotations anew (shard.nextAnnotations t p) = shard.nextAnnotations t p →
      anewSpec anew (shard.nextAnnotations t p) p.spec = p.spec := by
    intro h
    have hhash := ((anewAnnotations_eq_self hspec').1 h).1
    rw [anewSpec, if_pos]
    rw [OrdMap.get?_merge, hspec', Option.none_or, hhash]
  rw [podPending_eq (marks_resizedIn t w key), Pod.changedPaths_remade_eq_nil (annotations_podNext p)
    hsame, anewAnnotations_eq_self hspec', hown _ (by decide) hspec, t.podSpec_resizedIn]
  refine and_congr_right fun _ => ⟨fun h size hdue => ?_, fun h k v hv => ?_⟩
  · rw [← hown _ (by decide) hresize]
    exact h _ _ ((TabletSpec.get?_annotations_resizedIn w key hresize).2 (.inr ⟨rfl, size, hdue, rfl⟩))
  · rcases (TabletSpec.get?_annotations_resizedIn w key hresize).1 hv with hv | ⟨rfl, size, hdue, rfl⟩
    · exact hput k v hv
    · rw [hown _ (by decide) hresize]
      exact h size hdue

end Pending

end Shard

/-! ## Updates -/

/-- The changes that an update of a live object finds pending in a state. -/
def ObjectSet.pendingIn {σ K : Type} [ManagedObject K] (strategy : Strategy σ K) (key : ObjectKey)
    (current : K) (s : σ) : List String :=
  let next := strategy.updateInPlace key current s
  pendingChanges (strategy.updateAnew key next.1 next.2).1 next.1

namespace Shard

section Update

variable {shard : Shard} {topology : Topology} {config : PassConfig} {now : Timestamp}
variable {key : ObjectKey} {s : PassState MemoryStore} {t : TabletSpec} {p : Pod}

theorem pendingIn_pod (htablet : s.tablets.get? key = some t) (hkey : t.key shard.ns = key) :
    ObjectSet.pendingIn (podStrategy (shard.input topology config now)) key p s
      = shard.podPending t (t.resizedIn s.world key) p := by
  simp only [ObjectSet.pendingIn, updateInPlace_pod_apply htablet, updateAnew_pod_apply htablet, hkey,
    podPending]

/-- An update makes one call, which follows from the pending changes. -/
theorem world_update_pod (set : ObjectSet) (htablet : s.tablets.get? key = some t)
    (hkey : t.key shard.ns = key) :
    (ObjectSet.update (passCalls Pod) (podStrategy (shard.input topology config now)) set key p
        s).2.world
      = (set.updateAction p (shard.podNext t p)
          ((shard.podNext t p).update (t.resizedIn s.world key))).perform key s.world := by
  have hkeeps : ∀ w : MemoryStore, (podStrategy (shard.input topology config now)).Keeps key
      fun s => s.world = w := fun w =>
    podStrategy_keeps (fun _ _ h => PassState.world_modifyTablet.trans h) (fun _ _ _ _ _ h => h)
      fun _ _ _ _ _ h => h
  refine ObjectSet.update_rule (hkeeps s.world) (hkeeps _) set p rfl fun s' hworld => ?_
  simp only [ObjectSet.desiredAction, updateInPlace_pod_apply htablet,
    updateAnew_pod_apply htablet, hkey, PassState.world_act, hworld]

theorem stored_update_pod (set : ObjectSet) (htablet : s.tablets.get? key = some t)
    (hkey : t.key shard.ns = key) (hstored : s.world.fetch? Pod key = some p) :
    (ObjectSet.update (passCalls Pod) (podStrategy (shard.input topology config now)) set key p
        s).2.world.fetch? Pod key
      = (set.updateAction p (shard.podNext t p)
          ((shard.podNext t p).update (t.resizedIn s.world key))).leaves (s.world.rejects · key.name)
            s.world.nextStamp (some p) := by
  have hnext : key? (shard.podNext t p) = some key :=
    (shard.key?_podNext t p).trans (s.world.pods.keyed hstored)
  rw [world_update_pod set htablet hkey,
    Action.fetch?_perform (ObjectSet.updateAction_fits _ _ hnext), if_pos rfl, hstored]

variable (topology config now) in
/-- *Exact restart detection.* An update of a stored desired pod finds changes pending just when the pod
does not record the hash of the specification that is desired now, or when a resize of its file system is
due that it does not record: whatever else is stored of the pod. If no write is rejected, the pod carries
no rollout marker afterwards in case nothing is pending; otherwise it is gone if it was released, or if
releases are not waited for, and announces what is pending if not. -/
theorem restart_detected_iff_due (set : ObjectSet) (htablet : s.tablets.get? key = some t)
    (hkey : t.key shard.ns = key)
    (hspec : t.annotations.get? AnnotationKey.specHash = none)
    (hgeneration : t.annotations.get? AnnotationKey.observedGeneration = none)
    (hresize : t.annotations.get? AnnotationKey.filesystemResize = none)
    (hstored : s.world.fetch? Pod key = some p) :
    let strategy := podStrategy (shard.input topology config now)
    let pending := ObjectSet.pendingIn strategy key p s
    (pending ≠ [] ↔
      p.metadata.annotation? AnnotationKey.specHash ≠ some t.podSpec.hash ∨
        ∃ size, t.ResizeDue s.world key size ∧
          p.metadata.annotation? AnnotationKey.filesystemResize ≠ some size.text) ∧
    (s.world.rejects .update key.name = false → s.world.rejects .delete key.name = false →
      let after := (ObjectSet.update (passCalls Pod) strategy set key p s).2.world.fetch? Pod key
      (pending = [] → ∃ p', after = some p' ∧
        p'.metadata.scheduled? = none ∧ p'.metadata.released = false) ∧
      (pending ≠ [] →
        if set.releaseImmediately || p.metadata.released then after = none
        else ∃ p', after = some p' ∧
          p'.metadata.scheduled? = some (", ".intercalate pending))) := by
  intro strategy pending
  have hpending : pending = shard.podPending t (t.resizedIn s.world key) p :=
    pendingIn_pod htablet hkey
  refine ⟨?_, fun hupdate hdelete => ?_⟩
  · rw [hpending, ne_eq, podPending_eq_nil_iff s.world key hspec hgeneration hresize]
    rw [not_and_or, not_forall]
    simp only [ne_eq, Classical.not_imp]
  · rw [stored_update_pod set htablet hkey hstored, hpending]
    obtain ⟨hkept, hannounced⟩ := annotation?_leaves_updateAction (s.world.rejects · key.name) set
      hupdate hdelete p (shard.podNext t p) ((shard.podNext t p).update (t.resizedIn s.world key))
      s.world.nextStamp
    refine ⟨fun hnone => ?_, fun hsome => ?_⟩
    · obtain ⟨p', hp', hmarkers⟩ := hkept hnone
      have hscheduled := hmarkers AnnotationKey.rolloutScheduled
      have hreleased := hmarkers AnnotationKey.rolloutReleased
      rw [ObjectMeta.annotation?_unschedule, if_pos (.inr rfl)] at hscheduled
      rw [ObjectMeta.annotation?_unschedule, if_pos (.inl rfl)] at hreleased
      exact ⟨p', hp', hscheduled, congrArg Option.isSome hreleased⟩
    · have hannounced := hannounced hsome
      have hreleased : (ManagedObject.metadata p).released = p.metadata.released := rfl
      rw [hreleased] at hannounced
      split
      · next hgoes =>
          rw [if_pos hgoes] at hannounced
          exact hannounced
      · next hstays =>
          rw [if_neg hstays] at hannounced
          obtain ⟨p', hp', hmarkers⟩ := hannounced
          exact ⟨p', hp', (hmarkers _).trans (ObjectMeta.scheduled?_schedule _ _)⟩

end Update

/-- The first tablet of the small shard, and the state in which a pass starts whose pod is stored. -/
def sampleTablet : TabletSpec := ((sample 1).byKey.get? (sampleKey sampleFirst)).getD default
def sampleStart : PassState MemoryStore := ((sample 1).input .sample {} .sample).start sampleStored

/-- What an update of that pod finds pending. -/
def samplePending : List String :=
  ObjectSet.pendingIn (podStrategy ((sample 1).input .sample {} .sample)) (sampleKey sampleFirst)
    sampleStoredPod sampleStart

/-- A pod that records no hash has to be made anew, and says so afterwards. -/
theorem sample_restart_announced :
    samplePending ≠ [] ∧
      ∃ p', (ObjectSet.update (passCalls Pod) (podStrategy ((sample 1).input .sample {} .sample))
          ((sample 1).objectSet .sample (sample 1).keys) (sampleKey sampleFirst) sampleStoredPod
          sampleStart).2.world.fetch? Pod (sampleKey sampleFirst) = some p' ∧
        p'.metadata.scheduled? = some (", ".intercalate samplePending) := by
  have htablet : sampleStart.tablets.get? (sampleKey sampleFirst) = some sampleTablet := by
    decide +kernel
  have hkey : sampleTablet.key (sample 1).ns = sampleKey sampleFirst := by decide +kernel
  have hstored : sampleStart.world.fetch? Pod (sampleKey sampleFirst) = some sampleStoredPod := by
    decide +kernel
  have hstays : ¬(((sample 1).objectSet .sample (sample 1).keys).releaseImmediately ||
      sampleStoredPod.metadata.released) = true := by decide +kernel
  obtain ⟨hdue, hmarked⟩ := restart_detected_iff_due .sample {} .sample
    ((sample 1).objectSet .sample (sample 1).keys) htablet hkey (by decide +kernel)
    (by decide +kernel) (by decide +kernel) hstored
  have hsome := hdue.2 (.inl (by decide +kernel))
  have hannounced := (hmarked (by decide +kernel) (by decide +kernel)).2 hsome
  rw [if_neg hstays] at hannounced
  exact ⟨hsome, hannounced⟩

end Shard

end TabletFleet
