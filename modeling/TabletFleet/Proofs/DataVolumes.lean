import TabletFleet.Proofs.Pass.Outcome
import TabletFleet.Proofs.Store.Outside

set_option autoImplicit false

/-! # Data volumes

A claim goes only when it is unwanted and there is no pod at its key; and a pod mounts no claim but the
one at its own key, which is there before the pod is. So whatever shards are reconciled, in whatever
order, and whatever is done to the objects from outside short of taking claims away, no pod ever loses
its data volume. -/

namespace TabletFleet

open ManagedObject (key?)

/-! ## Which claims go -/

namespace Shard

section Claims

variable {shard : Shard} {topology : Topology} {config : PassConfig} {now : Timestamp}
variable {w : MemoryStore} {key : ObjectKey} {c : Claim}

theorem claimAction_ne_delete (live : Option Claim) : shard.claimAction key live ≠ .delete := by
  unfold claimAction
  cases shard.byKey.get? key with
  | none => simp
  | some t =>
      cases live with
      | none =>
          simp only [ObjectSet.createAction]
          split <;> simp
      | some c =>
          simp only [Action.replace]
          split <;> simp

theorem claimTurnDown_eq_delete : claimTurnDown w key c = .delete ↔
    c.metadata.isTerminating = false ∧ w.rejects .get key.name = false ∧
      w.fetch? Pod key = none := by
  unfold claimTurnDown
  cases c.metadata.isTerminating <;> cases w.rejects .get key.name <;>
    cases w.fetch? Pod key <;> simp

/-- The claim of a desired tablet with a data volume survives every pass. -/
theorem desired_claim_remains (hkey : key ∈ shard.claimKeys) (hc : w.fetch? Claim key = some c) :
    (shard.afterClaims now w).fetch? Claim key ≠ none := by
  obtain ⟨n, hafter⟩ := claim_desired now w hkey
  rw [hafter, hc, ne_eq, Action.leaves_eq_none_iff]
  exact fun h => claimAction_ne_delete _ h.1

/-- A stored claim is removed by a pass just when it is found, unwanted and not on its way out, when it
is certain that there is no pod at its key, and when the deletion is let through. -/
theorem claim_removed_iff (hc : w.fetch? Claim key = some c) :
    (shard.afterPass topology config now w).fetch? Claim key = none ↔
      c.metadata.isListed shard.ns shard.labels = true ∧ c.metadata.isTerminating = false ∧
        key ∉ shard.claimKeys ∧ w.fetch? Pod key = none ∧ w.rejects .get key.name = false ∧
        w.rejects .delete key.name = false := by
  rw [fetch?_claim_afterPass]
  by_cases hkey : key ∈ shard.claimKeys
  · have hremains : (shard.afterClaims now w).fetch? Claim key ≠ none :=
      desired_claim_remains hkey hc
    simp [hremains, hkey]
  · by_cases hlisted : c.metadata.isListed shard.ns shard.labels = true
    · have hlive : (shard.liveClaims now w).get? key = some c := get?_liveClaims.2 ⟨hc, hlisted⟩
      obtain ⟨n, hafter⟩ := claim_unwanted hkey hlive
      rw [hafter, Action.leaves_eq_none_iff, claimTurnDown_eq_delete]
      simp only [hlisted, hkey, not_false_eq_true, true_and]
      exact ⟨fun ⟨⟨h₁, h₂, h₃⟩, h₄⟩ => ⟨h₁, h₃, h₂, h₄⟩,
        fun ⟨h₁, h₃, h₂, h₄⟩ => ⟨⟨h₁, h₂, h₃⟩, h₄⟩⟩
    · -- a claim that is not listed is not found, so nothing is done to it
      have hlive : (shard.liveClaims now w).get? key = none := by
        rw [liveClaims_eq_found, found, hc, Option.filter_some]
        exact if_neg hlisted
      rw [claim_other hkey hlive, hc]
      simp [hlisted]

/-- A claim with a pod at its key survives every pass. -/
theorem claim_remains_of_pod (hc : w.fetch? Claim key = some c) {p : Pod}
    (hp : w.fetch? Pod key = some p) :
    (shard.afterPass topology config now w).fetch? Claim key ≠ none := by
  rw [ne_eq, claim_removed_iff hc]
  rintro ⟨-, -, -, hnone, -⟩
  rw [hp] at hnone
  cases hnone

variable (topology config now) in
/-- The claim of a desired tablet is created where there is none, unless that is rejected. -/
theorem claim_created {t : TabletSpec} (ht : shard.byKey.get? key = some t)
    (hnew : t.newClaim? key = some c) (hallowed : w.rejects .create key.name = false)
    (hnone : w.fetch? Claim key = none) :
    ∃ stamp, (shard.afterPass topology config now w).fetch? Claim key = some (storedAs stamp true c) := by
  obtain ⟨hmem, hkey⟩ := of_byKey ht
  have htemplate : t.claimTemplate.isSome = true := by
    obtain ⟨template, htemplate, -⟩ := Option.map_eq_some_iff.1 hnew
    rw [htemplate]
    rfl
  have hclaim : key ∈ shard.claimKeys := mem_claimKeys_iff.2 ⟨t, hmem, htemplate, hkey⟩
  obtain ⟨stamp, hafter⟩ := claim_desired now w hclaim
  have hlive : (shard.liveClaims now w).get? key = none := by
    rw [liveClaims_eq_found, found, hnone, Option.filter_none]
  refine ⟨stamp, ?_⟩
  rw [fetch?_claim_afterPass, hafter, hlive, hnone, claimAction, ht]
  simp [hnew, ObjectSet.createAction, Action.leaves, hallowed]

/-- A desired tablet with a data volume has its claim by the time its pod is created: what would have
kept the claim from being created keeps the pod from it too. -/
theorem claim_of_created {t : TabletSpec} (ht : shard.byKey.get? key = some t)
    (htemplate : t.claimTemplate.isSome = true) (hallowed : w.rejects .create key.name = false) :
    (shard.afterPass topology config now w).fetch? Claim key ≠ none := by
  cases hc : w.fetch? Claim key with
  | some c =>
      obtain ⟨hmem, hkey⟩ := of_byKey ht
      rw [fetch?_claim_afterPass]
      exact desired_claim_remains (mem_claimKeys_iff.2 ⟨t, hmem, htemplate, hkey⟩) hc
  | none =>
      -- there was none, so the same pass has created it before the pod
      obtain ⟨template, htemplate⟩ := Option.isSome_iff_exists.1 htemplate
      have hnew : t.newClaim? key = some _ := congrArg (Option.map _) htemplate
      obtain ⟨n, hafter⟩ := claim_created topology config now ht hnew hallowed hc
      rw [hafter]
      exact Option.some_ne_none _

end Claims

end Shard

/-! ## Pods and their claims -/

/-- One of the pod's volumes is backed by the claim of the given name. -/
def Pod.Mounts (p : Pod) (name : String) : Prop :=
  ∃ spec volumes volume source, p.spec = some spec ∧ spec.volumes = some volumes ∧
    volume ∈ volumes ∧ volume.claim = some source ∧ source.claimName = name

theorem Pod.Mounts.congr {p q : Pod} {name : String} (h : p.Mounts name) (hspec : q.spec = p.spec) :
    q.Mounts name := by
  obtain ⟨spec, rest⟩ := h
  exact ⟨spec, by rw [hspec]; exact rest⟩

/-- A pod with the tablet's specification, on whatever node, mounts the claim of the tablet's name if the
tablet has a data volume, and no other. -/
theorem mounts_iff_of_spec {t : TabletSpec} {p : Pod} {node : Option String} {name : String}
    (hspec : p.spec = some { t.podSpec with nodeName := node }) :
    p.Mounts name ↔ t.claimTemplate.isSome = true ∧ name = t.name := by
  constructor
  · rintro ⟨spec, volumes, volume, source, hs, hvolumes, hvolume, hsource, rfl⟩
    obtain rfl := Option.some.inj (hspec.symm.trans hs)
    obtain ⟨template, htemplate, rfl⟩ := Option.map_eq_some_iff.1 hvolumes
    obtain rfl := List.mem_singleton.1 hvolume
    obtain rfl := Option.some.inj hsource
    exact ⟨by rw [htemplate]; rfl, rfl⟩
  · rintro ⟨htemplate, rfl⟩
    obtain ⟨template, htemplate⟩ := Option.isSome_iff_exists.1 htemplate
    have hvolumes : t.podSpec.volumes = some _ := congrArg (Option.map _) htemplate
    exact ⟨_, _, _, _, hspec, hvolumes, List.mem_singleton_self _, rfl, rfl⟩

/-- Every stored pod mounts no claim but the one at its own key, and that claim is stored. -/
def MemoryStore.VolumesBacked (w : MemoryStore) : Prop :=
  ∀ key p name, w.fetch? Pod key = some p → p.Mounts name →
    name = key.name ∧ w.fetch? Claim key ≠ none

/-! ## Steps -/

section Steps

variable {w : MemoryStore}

/-- A pass leaves every mounted claim where it is. -/
theorem volumesBacked_afterPass (h : w.VolumesBacked) (shard : Shard) (topology : Topology)
    (config : PassConfig) (now : Timestamp) :
    (shard.afterPass topology config now w).VolumesBacked := by
  intro key p' name hp' hmounts
  -- a pod that was there has its specification still, so it mounts what it did
  have hkept : ∀ p, w.fetch? Pod key = some p → p'.spec = p.spec →
      name = key.name ∧ (shard.afterPass topology config now w).fetch? Claim key ≠ none := by
    intro p hp hspec
    obtain ⟨hname, hclaim⟩ := h key p name hp (hmounts.congr hspec.symm)
    obtain ⟨c, hc⟩ := Option.ne_none_iff_exists'.1 hclaim
    exact ⟨hname, Shard.claim_remains_of_pod hc hp⟩
  cases Shard.podOrigin hp' with
  | kept _ before => exact hkept p' before rfl
  | created t stamp desired before allowed =>
      have hspec : (storedAs stamp true (t.newPod key)).spec
          = some { t.podSpec with nodeName := none } := rfl
      obtain ⟨htemplate, hname⟩ := (mounts_iff_of_spec hspec).1 hmounts
      have hkey : t.name = key.name := congrArg ObjectKey.name (Shard.of_byKey desired).2
      exact ⟨hname.trans hkey, Shard.claim_of_created desired htemplate allowed⟩
  | updated t p f stamp desired before markers => exact hkept p before rfl
  | drained p stamp unwanted before => exact hkept p before rfl

theorem volumesBacked_remove (h : w.VolumesBacked) (key : ObjectKey) :
    (w.remove Pod key).VolumesBacked := by
  intro k p name hp hmounts
  rw [MemoryStore.fetch?_remove] at hp
  split at hp
  · cases hp
  · exact h k p name hp hmounts

theorem volumesBacked_editPod (h : w.VolumesBacked) (key : ObjectKey) {f : Pod → Pod}
    (hkey : ∀ p, key? (f p) = key? p) (hspec : ∀ p, (f p).spec = p.spec) :
    (w.edit Pod key f).VolumesBacked := by
  intro k p name hp hmounts
  have hclaim : (w.edit Pod key f).fetch? Claim k = w.fetch? Claim k :=
    congrArg (·.get? k) (w.claims_edit key f)
  rw [hclaim]
  rw [MemoryStore.fetch?_edit hkey] at hp
  split at hp
  · next hk =>
      obtain ⟨before, hbefore, rfl⟩ := Option.map_eq_some_iff.1 hp
      rw [hk]
      exact h key before name hbefore (hmounts.congr (hspec before).symm)
  · exact h k p name hp hmounts

theorem volumesBacked_editClaim (h : w.VolumesBacked) (key : ObjectKey) {f : Claim → Claim}
    (hkey : ∀ c, key? (f c) = key? c) : (w.edit Claim key f).VolumesBacked := by
  intro k p name hp hmounts
  have hpod : (w.edit Claim key f).fetch? Pod k = w.fetch? Pod k :=
    congrArg (·.get? k) (w.pods_edit key f)
  rw [hpod] at hp
  obtain ⟨hname, hclaim⟩ := h k p name hp hmounts
  refine ⟨hname, ?_⟩
  rw [MemoryStore.fetch?_edit hkey]
  split
  · next hk =>
      rw [ne_eq, Option.map_eq_none_iff, ← hk]
      exact hclaim
  · exact hclaim

end Steps

/-! ## Runs -/

/-- The stores that come about from the empty one by passes for any shards, while the calls that are
rejected change, and others remove pods or change pods and claims in any way that leaves their keys
and the specifications of pods. -/
inductive Reachable : MemoryStore → Prop where
  | empty (newUid : Nat → String) : Reachable (.empty newUid)
  | pass (w : MemoryStore) (shard : Shard) (topology : Topology) (config : PassConfig)
      (now : Timestamp) (before : Reachable w) :
      Reachable (shard.reconcileAt topology config now w).2
  | rejecting (w : MemoryStore) (rejections : List (Verb × String)) (before : Reachable w) :
      Reachable { w with rejections }
  | podRemoved (w : MemoryStore) (key : ObjectKey) (before : Reachable w) :
      Reachable (w.remove Pod key)
  | podEdited (w : MemoryStore) (key : ObjectKey) (f : Pod → Pod) (before : Reachable w)
      (sameKey : ∀ p, key? (f p) = key? p) (sameSpec : ∀ p, (f p).spec = p.spec) :
      Reachable (w.edit Pod key f)
  | claimEdited (w : MemoryStore) (key : ObjectKey) (f : Claim → Claim) (before : Reachable w)
      (sameKey : ∀ c, key? (f c) = key? c) : Reachable (w.edit Claim key f)

theorem Reachable.volumesBacked {w : MemoryStore} (h : Reachable w) : w.VolumesBacked := by
  induction h with
  | empty =>
      intro key p name hp
      cases hp
  | pass w shard topology config now _ ih => exact volumesBacked_afterPass ih shard topology config now
  | rejecting w rejections _ ih => exact ih
  | podRemoved w key _ ih => exact volumesBacked_remove ih key
  | podEdited w key f _ sameKey sameSpec ih => exact volumesBacked_editPod ih key sameKey sameSpec
  | claimEdited w key f _ sameKey ih => exact volumesBacked_editClaim ih key sameKey

/-- *No pod loses its data volume.* A stored claim is removed by a pass if and only if it is one of the
shard's, is not on its way out, is at the key of no desired claim and of no pod, and neither looking
the pod up nor the deletion is rejected. And in every store that comes about by passes and changes
from outside, every claim that a stored pod mounts is stored in the pod's namespace. -/
theorem no_pod_loses_its_data_volume :
    (∀ (shard : Shard) (topology : Topology) (config : PassConfig) (now : Timestamp)
      (w : MemoryStore) (key : ObjectKey) (c : Claim), w.fetch? Claim key = some c →
      ((shard.reconcileAt topology config now w).2.fetch? Claim key = none ↔
        key.ns = shard.ns ∧ Selector.accepts shard.labels c.metadata.labels = true ∧
        c.metadata.deletionTimestamp = none ∧
        (∀ t ∈ shard.tablets, t.claimTemplate.isSome = true → t.key shard.ns ≠ key) ∧
        w.fetch? Pod key = none ∧ w.rejects .get key.name = false ∧
        w.rejects .delete key.name = false)) ∧
    ∀ w, Reachable w → ∀ key p name, w.fetch? Pod key = some p → p.Mounts name →
      w.fetch? Claim ⟨key.ns, name⟩ ≠ none := by
  refine ⟨?_, ?_⟩
  · intro shard topology config now w key c hc
    have hremoved : (shard.afterPass topology config now w).fetch? Claim key = none ↔ _ :=
      Shard.claim_removed_iff hc
    have hlisted : c.metadata.isListed shard.ns shard.labels = true ↔ _ :=
      isListed_iff (w.claims.keyed hc)
    have hdesired : key ∉ shard.claimKeys ↔
        ∀ t ∈ shard.tablets, t.claimTemplate.isSome = true → t.key shard.ns ≠ key := by
      rw [Shard.mem_claimKeys_iff]
      simp
    rw [hlisted, ObjectMeta.isTerminating_eq_false, hdesired, and_assoc] at hremoved
    exact hremoved
  · intro w hw key p name hp hmounts
    obtain ⟨rfl, hclaim⟩ := hw.volumesBacked key p name hp hmounts
    exact hclaim

/-- The small shard, with a data volume for its only tablet. -/
def Shard.sampleWithVolume : Shard :=
  { Shard.sample 1 with
    spec := { (Shard.sample 1).spec with tabletPools := [
      { cell := "zone1", type := .replica, replicas := 1, dataVolumeClaimTemplate := some {} }] } }

/-- The pod that a pass over it creates mounts a claim, which is there. -/
theorem sample_pod_has_its_data_volume :
    (Shard.sampleWithVolume.reconcileAt .sample {} .sample .sample).2.fetch? Claim
      (Shard.sampleKey Shard.sampleFirst) ≠ none := by
  have hvolumes : (((Shard.sampleWithVolume.reconcileAt .sample {} .sample .sample).2.fetch? Pod
        (Shard.sampleKey Shard.sampleFirst)).bind (·.spec)).bind (·.volumes)
      = some [{
          name := "vt-data",
          claim := some { claimName := (Shard.sampleKey Shard.sampleFirst).name } }] := by
    decide +kernel
  obtain ⟨spec, hspec, hvolumes⟩ := Option.bind_eq_some_iff.1 hvolumes
  obtain ⟨p, hp, hspec⟩ := Option.bind_eq_some_iff.1 hspec
  have hmounts : p.Mounts (Shard.sampleKey Shard.sampleFirst).name :=
    ⟨spec, _, _, _, hspec, hvolumes, List.mem_singleton_self _, rfl, rfl⟩
  have hreachable : Reachable (Shard.sampleWithVolume.reconcileAt .sample {} .sample .sample).2 :=
    .pass .sample Shard.sampleWithVolume .sample {} .sample (.empty sampleUid)
  revert hreachable hp hmounts
  generalize (Shard.sampleWithVolume.reconcileAt .sample {} .sample .sample).2 = w
  generalize Shard.sampleKey Shard.sampleFirst = key
  intro hp hmounts hreachable
  exact no_pod_loses_its_data_volume.2 w hreachable key p key.name hp hmounts

end TabletFleet
