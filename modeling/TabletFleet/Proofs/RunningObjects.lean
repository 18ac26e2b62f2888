import TabletFleet.Proofs.Pass.Frame
import TabletFleet.Proofs.Text.Numeral

set_option autoImplicit false

/-! # What becomes of running objects

A pass never changes what an object is that runs before and after it (`Shard.running_objects_kept`). What
needs a restart is never done to a running pod, even though it is worked out on a copy of it. But the
pod records for which generation of the shard it was looked at last. -/

namespace TabletFleet

namespace Shard

/-! ## The recorded generation -/

section Generation

variable {shard : Shard} {topology : Topology} {config : PassConfig} {now : Timestamp}
variable {w : MemoryStore} {key : ObjectKey} {p p' : Pod}

/-- A desired pod that a pass finds records the generation of the shard afterwards, if nothing keeps it
from being updated or deleted. -/
theorem observedGeneration_afterPass (hkey : key ∈ shard.keys)
    (hfound : shard.found Pod w key = some p) (hupdate : w.rejects .update key.name = false)
    (hdelete : w.rejects .delete key.name = false)
    (hp' : (shard.afterPass topology config now w).fetch? Pod key = some p') :
    p'.observedGeneration? = some shard.generation := by
  obtain ⟨t, ht⟩ := exists_byKey hkey
  obtain ⟨n, hafter⟩ := pod_desired now w topology config hkey
  rw [hp', livePods_eq_found, hfound, found_eq_some hfound, podAction, ht] at hafter
  obtain ⟨hkept, hannounced⟩ := annotation?_leaves_updateAction (w.rejects · key.name)
    (shard.objectSet now shard.keys) hupdate hdelete p (shard.podNext t p)
    ((shard.podNext t p).update (t.resizedIn (shard.afterClaims now w) key)) n
  have hnext : (shard.podNext t p).metadata.annotation? AnnotationKey.observedGeneration
      = some (toString shard.generation.toInt) :=
    (ObjectMeta.annotation?_annotate ..).trans (if_pos rfl)
  -- neither rollout marker stands in the way of the recorded generation
  have hrecorded : p'.metadata.annotation? AnnotationKey.observedGeneration
      = some (toString shard.generation.toInt) := by
    by_cases hpending : ObjectSet.pendingChanges ((shard.podNext t p).update
        (t.resizedIn (shard.afterClaims now w) key)) (shard.podNext t p) = []
    · obtain ⟨q, hq, hsame⟩ := hkept hpending
      obtain rfl := Option.some.inj (hafter.trans hq)
      refine (hsame _).trans ?_
      rw [ObjectMeta.annotation?_unschedule, if_neg (by decide)]
      exact hnext
    · have hannounced := hannounced hpending
      split at hannounced
      · rw [hannounced] at hafter
        cases hafter
      · obtain ⟨q, hq, hsame⟩ := hannounced
        obtain rfl := Option.some.inj (hafter.trans hq)
        refine (hsame _).trans ?_
        rw [ObjectMeta.schedule, ObjectMeta.annotation?_annotate, if_neg (by decide)]
        exact hnext
  rw [Pod.observedGeneration?, hrecorded, Option.bind_some, Numeral.int64?_toString]

end Generation

/-! ## Before and after a pass -/

/-- *What runs stays what it is.* Of a pod that is stored at a key before and after a pass, everything is
the same but labels, annotations and version; of a claim also but the storage that it requests, which may
have grown to what the tablet's template asks for. The labels and annotations of others are kept. A
desired pod that the pass finds records the generation of the shard from then on, unless a call for it
may be rejected. -/
theorem running_objects_kept (shard : Shard) (topology : Topology) (config : PassConfig)
    (now : Timestamp) (w : MemoryStore) (key : ObjectKey) :
    let after := shard.afterPass topology config now w
    (∀ p p', w.fetch? Pod key = some p → after.fetch? Pod key = some p' →
      MetadataKept shard key p.metadata p'.metadata ∧ p'.spec = p.spec ∧ p'.status = p.status ∧
      (key ∈ shard.keys → p.metadata.isListed shard.ns shard.labels = true →
        w.rejects .update key.name = false → w.rejects .delete key.name = false →
          p'.observedGeneration? = some shard.generation)) ∧
    (∀ c c', w.fetch? Claim key = some c → after.fetch? Claim key = some c' →
      MetadataKept shard key c.metadata c'.metadata ∧ c'.status = c.status ∧
      (c'.spec = c.spec ∨
        ∃ t, shard.byKey.get? key = some t ∧ ClaimSpec.GrownFor t c.spec c'.spec)) := by
  refine ⟨fun p p' hp hp' => ?_, fun c c' hc hc' => claim_kept hc hc'⟩
  obtain ⟨hmetadata, hspec, hstatus⟩ := pod_kept hp hp'
  refine ⟨hmetadata, hspec, hstatus, fun hkey hlisted hupdate hdelete => ?_⟩
  exact observedGeneration_afterPass hkey (Option.filter_eq_some_iff.2 ⟨hp, hlisted⟩) hupdate
    hdelete hp'

/-- The pod of the small shard after a pass. -/
def sampleKeptPod : Pod :=
  (((sample 1).afterPass .sample {} .sample sampleStored).fetch? Pod
    (sampleKey sampleFirst)).getD default

/-- The pod records the generation now, and its specification is what it was. -/
theorem sample_pod_kept :
    sampleStoredPod.observedGeneration? = none ∧ sampleKeptPod.observedGeneration? = some 1 ∧
      sampleKeptPod.spec = sampleStoredPod.spec := by
  have hp : sampleStored.fetch? Pod (sampleKey sampleFirst) = some sampleStoredPod := by
    decide +kernel
  have hp' : ((sample 1).afterPass .sample {} .sample sampleStored).fetch? Pod
      (sampleKey sampleFirst) = some sampleKeptPod := by decide +kernel
  obtain ⟨-, hspec, -, hgeneration⟩ := (running_objects_kept (sample 1) .sample {} .sample
    sampleStored (sampleKey sampleFirst)).1 _ _ hp hp'
  refine ⟨by decide +kernel, ?_, hspec⟩
  exact hgeneration (by decide +kernel) (by decide +kernel) (by decide +kernel) (by decide +kernel)

end Shard

end TabletFleet
