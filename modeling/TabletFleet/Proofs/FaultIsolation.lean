import TabletFleet.Proofs.Pass.Entries
import TabletFleet.Proofs.Pass.Frame
import TabletFleet.Proofs.Pass.TwoRuns

set_option autoImplicit false

/-! # Fault isolation

Failures stay with their tablet. What a pass makes of a desired tablet, and what it reports of it, follows
from what is stored at the tablet's own key and from what is rejected there (`Shard.pass_agrees`). So
calls that are rejected on the objects of other tablets, of whatever kind they are, do not show in it
(`Shard.failures_stay_with_their_tablet`). -/

namespace TabletFleet

namespace MemoryStore

/-- The stores hold the same objects at a key, and reject the same calls on them. -/
structure AgreesAt (key : ObjectKey) (s s' : MemoryStore) : Prop where
  rejects : ∀ verb, s'.rejects verb key.name = s.rejects verb key.name
  pod : s'.fetch? Pod key = s.fetch? Pod key
  claim : s'.fetch? Claim key = s.fetch? Claim key

/-- The same is stored at a key, but for its version, and for its uid if nothing was stored there at
first. -/
structure SameAt (K : Type) [Stored K] (key : ObjectKey) (first s s' : MemoryStore) : Prop where
  alike : (s.fetch? K key).map unstamped = (s'.fetch? K key).map unstamped
  remaining : (first.fetch? K key).isSome = true →
    (s.fetch? K key).map unversioned = (s'.fetch? K key).map unversioned

theorem SameAt.of_uid {K : Type} [Stored K] {key : ObjectKey} {first s s' : MemoryStore}
    (halike : (s.fetch? K key).map unstamped = (s'.fetch? K key).map unstamped)
    (huid : ∀ object x, first.fetch? K key = some object → s.fetch? K key = some x →
      (ManagedObject.metadata x).uid = (ManagedObject.metadata object).uid)
    (huid' : ∀ object x, first.fetch? K key = some object → s'.fetch? K key = some x →
      (ManagedObject.metadata x).uid = (ManagedObject.metadata object).uid) :
    first.SameAt K key s s' where
  alike := halike
  remaining hfirst := by
    obtain ⟨object, hobject⟩ := Option.isSome_iff_exists.1 hfirst
    refine map_unversioned_eq_of_uid halike fun x y hx hy => ?_
    rw [huid object x hobject hx, huid' object y hobject hy]

theorem rejects_congr {key : ObjectKey} {s s' : MemoryStore}
    (h : ∀ verb, s'.rejects verb key.name = s.rejects verb key.name) :
    (s'.rejects · key.name) = (s.rejects · key.name) := funext h

end MemoryStore

namespace Shard

variable (shard : Shard) (now : Timestamp)
variable {w w' : MemoryStore} {key : ObjectKey}

/-! ## The claim of a tablet -/

section Claims

variable (h : w.AgreesAt key w')
include h

theorem liveClaims_agrees :
    (shard.liveClaims now w').get? key = (shard.liveClaims now w).get? key := by
  rw [liveClaims_eq_found, liveClaims_eq_found, found_congr h.claim]

theorem claimTurnDown_agrees (c : Claim) : claimTurnDown w' key c = claimTurnDown w key c := by
  rw [claimTurnDown, h.rejects, h.pod, claimTurnDown]

theorem failureIn?_claim_agrees (a : Action Claim) :
    a.failureIn? key w' = a.failureIn? key w :=
  Action.failureIn?_congr h.rejects (by rw [h.claim]) a

theorem claimEntry_agrees : shard.claimEntry now w' key = shard.claimEntry now w key := by
  funext entry
  simp only [claimEntry, liveClaims_agrees shard now h, claimTurnDown_agrees h,
    failureIn?_claim_agrees h]

theorem afterClaims_agrees :
    ((shard.afterClaims now w).fetch? Claim key).map unstamped
      = ((shard.afterClaims now w').fetch? Claim key).map unstamped := by
  have hrejects := MemoryStore.rejects_congr h.rejects
  have hlive := liveClaims_agrees shard now h
  by_cases hkey : key ∈ shard.claimKeys
  · obtain ⟨n, hafter⟩ := claim_desired now w hkey
    obtain ⟨n', hafter'⟩ := claim_desired now w' hkey
    rw [hafter, hafter', hlive, hrejects, h.claim]
    exact Action.unstamped_leaves _ _ n n' rfl
  · cases hc : (shard.liveClaims now w).get? key with
    | none => rw [claim_other hkey hc, claim_other hkey (hlive.trans hc), h.claim]
    | some c =>
        obtain ⟨n, hafter⟩ := claim_unwanted hkey hc
        obtain ⟨n', hafter'⟩ := claim_unwanted hkey (hlive.trans hc)
        rw [hafter, hafter', claimTurnDown_agrees h, hrejects]
        exact Action.unstamped_leaves _ _ n n' rfl

end Claims

/-! ## The pod of a tablet -/

section Pods

variable (hrejects : ∀ verb, w'.rejects verb key.name = w.rejects verb key.name)
variable (hpod : w'.fetch? Pod key = w.fetch? Pod key)
variable (hclaim : (w.fetch? Claim key).map unstamped = (w'.fetch? Claim key).map unstamped)

include hpod in
theorem livePods_agrees : (shard.livePods now w').get? key = (shard.livePods now w).get? key := by
  rw [livePods_eq_found, livePods_eq_found, found_congr hpod]

include hrejects hclaim in
theorem podAction_agrees (live : Option Pod) :
    shard.podAction now w' key live = shard.podAction now w key live := by
  simp only [podAction, resizedIn_of_unstamped (hrejects .get) hclaim]

include hrejects hpod hclaim in
theorem podEntry_agrees : shard.podEntry now w' key = shard.podEntry now w key := by
  have hlive := livePods_agrees shard now hpod
  have hfailure : shard.podFailure? now w' key = shard.podFailure? now w key := by
    rw [podFailure?, hlive, podAction_agrees shard now hrejects hclaim]
    exact Action.failureIn?_congr hrejects (by rw [hpod]) _
  have htold : shard.podTold now w' key = shard.podTold now w key := by
    simp only [podTold, hlive, podAction_agrees shard now hrejects hclaim, hfailure]
  funext entry
  simp only [podEntry, hlive, hfailure, htold]

end Pods

/-! ## Whole passes -/

/-- *A pass in two worlds, at one key.* If they agree at the key of a desired tablet, the tablet is reported
in the same way, and the same becomes of its objects. -/
theorem pass_agrees (topology : Topology) (config : PassConfig) (h : w.AgreesAt key w') {text : String}
    (htext : shard.textAt key = some text) :
    (shard.reportedTablets topology config now w').get? text
        = (shard.reportedTablets topology config now w).get? text ∧
      w.SameAt Pod key (shard.afterPass topology config now w)
        (shard.afterPass topology config now w') ∧
      w.SameAt Claim key (shard.afterPass topology config now w)
        (shard.afterPass topology config now w') := by
  have hkey : key ∈ shard.keys := exists_textAt_iff.1 ⟨text, htext⟩
  -- what the first half leaves agrees at the key as far as the second half looks
  have hclaims := afterClaims_agrees shard now h
  have hrejects : ∀ verb, (shard.afterClaims now w').rejects verb key.name
      = (shard.afterClaims now w).rejects verb key.name := fun verb => by
    rw [rejects_afterClaims, rejects_afterClaims, h.rejects]
  have hpod : (shard.afterClaims now w').fetch? Pod key = (shard.afterClaims now w).fetch? Pod key := by
    rw [fetch?_pod_afterClaims, fetch?_pod_afterClaims, h.pod]
  refine ⟨?_, .of_uid ?_ (fun _ _ hp hp' => (pod_kept hp hp').1.uid) fun _ _ hp hp' =>
    (pod_kept (h.pod.trans hp) hp').1.uid, .of_uid ?_ (fun _ _ hc hc' => (claim_kept hc hc').1.uid)
    fun _ _ hc hc' => (claim_kept (h.claim.trans hc) hc').1.uid⟩
  · rw [reported_entry topology config now w' htext, reported_entry topology config now w htext,
      claimEntry_agrees shard now h, podEntry_agrees shard now hrejects hpod hclaims]
  · obtain ⟨n, hafter⟩ := pod_desired now w topology config hkey
    obtain ⟨n', hafter'⟩ := pod_desired now w' topology config hkey
    rw [hafter, hafter', livePods_agrees shard now h.pod, podAction_agrees shard now hrejects hclaims,
      MemoryStore.rejects_congr h.rejects, h.pod]
    exact Action.unstamped_leaves _ _ n n' rfl
  · rw [fetch?_claim_afterPass, fetch?_claim_afterPass]
    exact hclaims

/-- *Fault isolation.* In two passes that start from the same store, and in which calls are rejected alike
except on objects with certain names, every desired tablet whose objects have none of these names is
reported in the same way, and the same is stored of it in the end, but for versions and new uids. -/
theorem failures_stay_with_their_tablet (shard : Shard) (topology : Topology) (config : PassConfig)
    (now : Timestamp) (w : MemoryStore) (rejections : List (Verb × String)) (names : List String)
    (hrejects : ∀ verb name, name ∉ names →
      ({ w with rejections } : MemoryStore).rejects verb name = w.rejects verb name)
    (t : TabletSpec) (ht : t ∈ shard.tablets) (hname : t.name ∉ names) :
    let w' : MemoryStore := { w with rejections }
    let key := t.key shard.ns
    (∃ entry, (shard.reportedTablets topology config now w).get? t.identity.text = some entry ∧
      (shard.reportedTablets topology config now w').get? t.identity.text = some entry) ∧
      w.SameAt Pod key (shard.afterPass topology config now w)
        (shard.afterPass topology config now w') ∧
      w.SameAt Claim key (shard.afterPass topology config now w)
        (shard.afterPass topology config now w') := by
  intro w' key
  have hagrees : w.AgreesAt key w' := ⟨fun verb => hrejects verb t.name hname, rfl, rfl⟩
  obtain ⟨hentry, hobjects⟩ := pass_agrees shard now topology config hagrees (textAt_of_mem ht)
  obtain ⟨entry, hreported⟩ := exists_reported topology config now w ht
  exact ⟨⟨entry, hreported, hentry.trans hreported⟩, hobjects⟩

/-- The store after a pass over a small shard of two tablets, and after one in which the first pod could not
be created. -/
def sampleUnhindered : MemoryStore := (sample 2).afterPass .sample {} .sample .sample
def sampleHindered : MemoryStore :=
  (sample 2).afterPass .sample {} .sample
    { MemoryStore.sample with rejections := [(.create, (sampleKey sampleFirst).name)] }

/-- The second tablet of the small shard. -/
def sampleSecondTablet : TabletSpec := (sample 2).tablets.get ⟨1, by decide +kernel⟩

/-- The first pod is missing then, and the second, which is written first, is the same but for its version. -/
theorem sample_second_unaffected :
    sampleHindered.fetch? Pod (sampleKey sampleFirst) = none ∧
      (sampleUnhindered.fetch? Pod (sampleKey sampleSecond)).map (·.metadata.resourceVersion)
        = some (some "2") ∧
      (sampleHindered.fetch? Pod (sampleKey sampleSecond)).map (·.metadata.resourceVersion)
        = some (some "1") ∧
      (sampleUnhindered.fetch? Pod (sampleKey sampleSecond)).map unstamped
        = (sampleHindered.fetch? Pod (sampleKey sampleSecond)).map unstamped := by
  have hrejects : ∀ verb name, name ∉ [(sampleKey sampleFirst).name] →
      { MemoryStore.sample with
          rejections := [(.create, (sampleKey sampleFirst).name)] }.rejects verb name
        = MemoryStore.sample.rejects verb name := by
    intro verb name hname
    rw [List.mem_singleton] at hname
    simp [MemoryStore.rejects, MemoryStore.sample, MemoryStore.empty, hname]
  have hkey : sampleSecondTablet.key (sample 2).ns = sampleKey sampleSecond := by decide +kernel
  obtain ⟨-, hpods, -⟩ := failures_stay_with_their_tablet (sample 2) .sample {} .sample .sample
    [(.create, (sampleKey sampleFirst).name)] [(sampleKey sampleFirst).name] hrejects
    sampleSecondTablet (List.get_mem ..) (by decide +kernel)
  rw [hkey] at hpods
  exact ⟨by decide +kernel, by decide +kernel, by decide +kernel, hpods.alike⟩

end Shard

end TabletFleet
