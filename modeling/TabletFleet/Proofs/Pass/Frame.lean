import TabletFleet.Proofs.Pass.Outcome
import TabletFleet.Proofs.Pass.Upkeep

set_option autoImplicit false

/-! # The frame of a pass

What a pass leaves of the objects that are stored before and after it. It writes labels and annotations,
of which it touches only those of the tablet and those that it keeps for itself (`MetadataKept`), and it
lets the storage of a claim grow (`ClaimSpec.GrownFor`). All else stays as it is. -/

namespace TabletFleet

open ManagedObject (metadata mapMetadata written)

/-! ## Stored objects -/

section Stored

variable {K : Type} [Stored K]

theorem metadata_storedAs_false (stamp : Stamp) (object : K) :
    metadata (storedAs stamp false object) =
      { metadata object with
        resourceVersion := some (toString stamp.version)
        deletionTimestamp := (metadata object).deletionTimestamp.map (·.wholeSeconds) } := by
  rw [storedAs, ManagedObject.metadata_written, stampedAs,
    ManagedObject.metadata_mapMetadata]
  rfl

/-- The time at which a stored object was asked to go is in whole seconds. -/
theorem wholeSeconds_of_written {object : K} (h : written object = object) :
    (metadata object).deletionTimestamp.map (·.wholeSeconds)
      = (metadata object).deletionTimestamp := by
  have hwritten := ManagedObject.metadata_written object
  rw [h] at hwritten
  exact (congrArg ObjectMeta.deletionTimestamp hwritten).symm

variable [DecidableEq K] (rejects : Verb → Bool)

/-- An object whose update is not rejected has its next annotations afterwards. -/
theorem annotation?_leaves_replace (hupdate : rejects .update = false) (current next : K) (stamp : Stamp) :
    ∃ after, (Action.replace current next).leaves rejects stamp (some current) = some after ∧
      ∀ k, (metadata after).annotation? k = (metadata next).annotation? k := by
  obtain ⟨after, hafter, rfl | rfl⟩ :=
    Action.leaves_replace_of_allowed rejects hupdate current next stamp
  · exact ⟨_, hafter, fun _ => rfl⟩
  · refine ⟨_, hafter, fun k => ?_⟩
    rw [metadata_storedAs_false]
    rfl

/-- If no write is rejected, an update takes the rollout markers off when nothing is pending. Otherwise
the object is gone, if it may be made anew at once, and announces what is pending if not. -/
theorem annotation?_leaves_updateAction (set : ObjectSet) (hupdate : rejects .update = false)
    (hdelete : rejects .delete = false) (current next anew : K) (stamp : Stamp) :
    let after := (set.updateAction current next anew).leaves rejects stamp (some current)
    let pending := ObjectSet.pendingChanges anew next
    (pending = [] → ∃ object, after = some object ∧
      ∀ k, (metadata object).annotation? k = (metadata next).unschedule.annotation? k) ∧
    (pending ≠ [] →
      if set.releaseImmediately || (metadata current).released then after = none
      else ∃ object, after = some object ∧ ∀ k, (metadata object).annotation? k
        = ((metadata next).schedule (", ".intercalate pending)).annotation? k) := by
  intro after pending
  -- what is written in either case is the next state with other annotations
  have hwritten : ∀ f : ObjectMeta → ObjectMeta, ∃ object,
      (Action.replace current (mapMetadata f next)).leaves rejects stamp (some current) = some object ∧
        ∀ k, (metadata object).annotation? k = (f (metadata next)).annotation? k := by
    intro f
    obtain ⟨object, hobject, hsame⟩ :=
      annotation?_leaves_replace rejects hupdate current (mapMetadata f next) stamp
    exact ⟨object, hobject, fun k => by rw [hsame, ManagedObject.metadata_mapMetadata]⟩
  have hafter : after = (set.updateAction current next anew).leaves rejects stamp (some current) := rfl
  rw [ObjectSet.updateAction] at hafter
  refine ⟨fun hnone => ?_, fun hsome => ?_⟩
  · rw [if_pos (List.isEmpty_iff.2 hnone)] at hafter
    rw [hafter]
    exact hwritten _
  · rw [if_neg fun hempty => hsome (List.isEmpty_iff.1 hempty)] at hafter
    split
    · next hgoes =>
        rw [if_pos hgoes, Action.leaves, hdelete] at hafter
        exact hafter
    · next hstays =>
        rw [if_neg hstays] at hafter
        rw [hafter]
        exact hwritten _

end Stored

/-! ## Metadata -/

/-- The annotations that passes keep on objects for themselves. -/
def AnnotationKey.ofPasses : List String := [
  AnnotationKey.observedGeneration, AnnotationKey.rolloutScheduled, AnnotationKey.rolloutReleased,
  AnnotationKey.drainStarted]

/-- Metadata before and after a pass differ at most in the labels and annotations of the tablet at the
key, in the annotations that passes keep for themselves, and in the version. -/
structure MetadataKept (shard : Shard) (key : ObjectKey) (before after : ObjectMeta) : Prop where
  rest : after = { before with
    labels := after.labels, annotations := after.annotations
    resourceVersion := after.resourceVersion }
  labels : ∀ k,
    (∀ t, shard.byKey.get? key = some t → t.labels.get? k = none ∧ t.extraLabels.get? k = none) →
      after.label? k = before.label? k
  annotations : ∀ k, k ∉ AnnotationKey.ofPasses →
    (∀ t, shard.byKey.get? key = some t → t.annotations.get? k = none) →
      after.annotation? k = before.annotation? k

section Metadata

variable {shard : Shard} {key : ObjectKey}

theorem MetadataKept.refl (m : ObjectMeta) : MetadataKept shard key m m :=
  ⟨rfl, fun _ _ => rfl, fun _ _ _ => rfl⟩

theorem MetadataKept.uid {before after : ObjectMeta} (h : MetadataKept shard key before after) :
    after.uid = before.uid := by
  rw [h.rest]

variable {K : Type} [Stored K] {before next : K} {t : TabletSpec}

/-- An object that was brought up to date and stored. -/
theorem MetadataKept.of_kept (hstored : written before = before)
    (ht : shard.byKey.get? key = some t) {annotations : StringMap} {changes : List String}
    (hown : ∀ k, k ∉ AnnotationKey.ofPasses → t.annotations.get? k = none →
      annotations.get? k = none)
    (hnext : metadata next = (metadata before).kept t.objectLabels annotations changes) (stamp : Stamp) :
    MetadataKept shard key (metadata before) (metadata (storedAs stamp false next)) := by
  have hwhole := wholeSeconds_of_written hstored
  rw [metadata_storedAs_false, hnext]
  refine ⟨?_, fun k hk => ?_, fun k hk hnone => ?_⟩
  · simp only [ObjectMeta.kept, hwhole]
  · obtain ⟨hlabels, hextra⟩ := hk t ht
    refine (ObjectMeta.label?_kept _ _ annotations changes k).trans ?_
    rw [TabletSpec.objectLabels, OrdMap.get?_merge, hlabels, hextra, Option.none_or, Option.none_or]
  · have hmarker : NoMarker k := by
      constructor <;> rintro rfl <;> exact hk (by decide)
    refine (ObjectMeta.annotation?_kept _ t.objectLabels _ changes hmarker).trans ?_
    rw [hown k hk (hnone t ht), Option.none_or]

/-- An object that was asked to drain and stored. -/
theorem MetadataKept.of_startDrain (hstored : written before = before) {reason : String}
    (hnext : metadata next = (metadata before).startDrain reason) (stamp : Stamp) :
    MetadataKept shard key (metadata before) (metadata (storedAs stamp false next)) := by
  have hwhole := wholeSeconds_of_written hstored
  rw [metadata_storedAs_false, hnext]
  unfold ObjectMeta.startDrain
  split
  · exact ⟨by simp only [hwhole], fun _ _ => rfl, fun _ _ _ => rfl⟩
  · refine ⟨by simp only [ObjectMeta.annotate, hwhole], fun _ _ => rfl, fun k hk _ => ?_⟩
    refine (ObjectMeta.annotation?_annotate _ _ k _).trans (if_neg ?_)
    rintro rfl
    exact hk (by decide)

end Metadata

namespace Shard

/-! ## Pods -/

section Pods

variable {shard : Shard} {topology : Topology} {config : PassConfig} {now : Timestamp}
variable {w : MemoryStore} {key : ObjectKey} {p p' : Pod}

theorem get?_podAnnotations {t : TabletSpec} {k : String} (hk : k ∉ AnnotationKey.ofPasses)
    (hnone : t.annotations.get? k = none) : (shard.podAnnotations t).get? k = none := by
  rw [podAnnotations, OrdMap.get?_insert, if_neg, hnone]
  rintro rfl
  exact hk (by decide)

/-- The pod at a key before and after a pass: the metadata is kept, and all else is the same. -/
theorem pod_kept (hp : w.fetch? Pod key = some p)
    (hp' : (shard.afterPass topology config now w).fetch? Pod key = some p') :
    MetadataKept shard key p.metadata p'.metadata ∧ p'.spec = p.spec ∧ p'.status = p.status := by
  have hstored : written p = p := w.pods.written hp
  have hstatus : p.status.map (·.written) = p.status := congrArg Pod.status hstored
  have horigin := podOrigin hp'
  rw [hp] at horigin
  cases horigin with
  | kept _ before =>
      obtain rfl := Option.some.inj before
      exact ⟨.refl _, rfl, rfl⟩
  | created t n desired before => cases before
  | updated t q f n desired before markers =>
      obtain rfl := Option.some.inj before
      obtain ⟨changes, hnext⟩ := shard.marked_podNext t p markers
      rw [hnext]
      exact ⟨.of_kept hstored desired (fun k hk hnone => get?_podAnnotations hk hnone) rfl n,
        rfl, hstatus⟩
  | drained q n unwanted before =>
      obtain rfl := Option.some.inj before
      exact ⟨.of_startDrain hstored rfl n, rfl, hstatus⟩

end Pods

end Shard

/-! ## Claims -/

/-- A claim comes to request as much storage as the tablet's template, where it requested none before, or
less. -/
def ClaimSpec.GrownFor (t : TabletSpec) (before after : Option ClaimSpec) : Prop :=
  ∃ want, t.claimTemplate.bind (·.requestedStorage?) = some want ∧
    after = some ((before.getD {}).requestStorage want) ∧
    ∀ live, before.bind (·.requestedStorage?) = some live →
      ∃ l n, live.amount? = some l ∧ want.amount? = some n ∧ l < n

theorem ClaimSpec.growsTo_iff {s : ClaimSpec} {want : Quantity} :
    s.growsTo want = true ↔ ∀ live, s.requestedStorage? = some live →
      ∃ l n, live.amount? = some l ∧ want.amount? = some n ∧ l < n := by
  unfold growsTo
  cases s.requestedStorage? with
  | none => simp
  | some live =>
      simp only [Option.some.injEq, forall_eq']
      cases live.amount? with
      | none => simp
      | some l =>
          cases want.amount? with
          | none => simp
          | some n => simp

namespace Claim

theorem spec_kept (c : Claim) (t : TabletSpec) :
    (c.kept t).spec = c.spec ∨ ClaimSpec.GrownFor t c.spec (c.kept t).spec := by
  rw [kept_eq]
  unfold ClaimSpec.GrownFor
  cases t.claimTemplate.bind (·.requestedStorage?) with
  | none => exact .inl rfl
  | some want =>
      dsimp only
      by_cases hgrows : (c.spec.getD {}).growsTo want = true
      · refine .inr ⟨want, rfl, ?_, fun live hlive => ?_⟩
        · rw [ClaimSpec.growTo, if_pos hgrows]
        · refine ClaimSpec.growsTo_iff.1 hgrows live ?_
          cases hspec : c.spec with
          | none =>
              rw [hspec] at hlive
              cases hlive
          | some spec =>
              rw [hspec] at hlive
              exact hlive
      · left
        rw [ClaimSpec.growTo, if_neg hgrows]
        -- a claim without a specification requests nothing, so it would grow
        cases hspec : c.spec with
        | none =>
            rw [hspec] at hgrows
            exact absurd rfl hgrows
        | some spec => rfl

end Claim

namespace Shard

section Claims

variable {shard : Shard} {topology : Topology} {config : PassConfig} {now : Timestamp}
variable {w : MemoryStore} {key : ObjectKey} {c c' : Claim}

/-- The claim at a key before and after a pass: the metadata is kept, all else is the same, and the
storage that it requests has grown at most. -/
theorem claim_kept (hc : w.fetch? Claim key = some c)
    (hc' : (shard.afterPass topology config now w).fetch? Claim key = some c') :
    MetadataKept shard key c.metadata c'.metadata ∧ c'.status = c.status ∧
      (c'.spec = c.spec ∨
        ∃ t, shard.byKey.get? key = some t ∧ ClaimSpec.GrownFor t c.spec c'.spec) := by
  have hstored : written c = c := w.claims.written hc
  have hstatus : c.status.map (·.written) = c.status := congrArg Claim.status hstored
  have horigin := claimOrigin hc'
  rw [hc] at horigin
  cases horigin with
  | kept _ before =>
      obtain rfl := Option.some.inj before
      exact ⟨.refl _, rfl, .inl rfl⟩
  | created t _ n desired tablet new before => cases before
  | updated t c n tablet before =>
      obtain rfl := Option.some.inj before
      rw [← Claim.kept]
      refine ⟨.of_kept hstored tablet (fun _ _ hnone => hnone) (congrArg _ (Claim.kept_eq _ t)) n,
        ?_, (Claim.spec_kept _ t).imp id fun hgrown => ⟨t, tablet, hgrown⟩⟩
      rw [Claim.kept_eq]
      exact hstatus

end Claims

end Shard

end TabletFleet
