import TabletFleet.Proofs.Pass.Pods

set_option autoImplicit false

/-! # What a pass leaves

A pass over objects in memory carries out two plans, one for the claims and one for the pods
(`Shard.reconcileAt_eq`). So what it leaves at a key is told by the one call that it makes there: for a
desired object, for an unwanted one that it finds, and none for all others. -/

namespace TabletFleet

open StateRun

namespace Shard

/-- The store between the two halves of a pass. -/
def afterClaims (shard : Shard) (now : Timestamp) (w : MemoryStore) : MemoryStore :=
  (shard.claimPlan now w).run w

section Halves

variable (shard : Shard) (now : Timestamp) (w : MemoryStore)

theorem pods_afterClaims : (shard.afterClaims now w).pods = w.pods :=
  (shard.claimPlan now w).pods_run w

theorem rejects_afterClaims (verb : Verb) (name : String) :
    (shard.afterClaims now w).rejects verb name = w.rejects verb name :=
  (shard.claimPlan now w).rejects_run w verb name

theorem fetch?_pod_afterClaims (key : ObjectKey) :
    (shard.afterClaims now w).fetch? Pod key = w.fetch? Pod key :=
  congrArg (·.get? key) (shard.pods_afterClaims now w)

theorem livePods_afterClaims : shard.livePods now (shard.afterClaims now w) = shard.livePods now w :=
  congrArg (fun t : Table Pod => ObjectSet.live (t.select shard.ns shard.labels))
    (shard.pods_afterClaims now w)

end Halves

section Pass

variable (shard : Shard) (topology : Topology) (config : PassConfig) (now : Timestamp)
variable (w : MemoryStore)

/-- The store after a pass. -/
def afterPass : MemoryStore := (shard.reconcileAt topology config now w).2

/-- The entries of the desired tablets in the status that a pass reports. -/
def reportedTablets : OrdMap String TabletStatus :=
  (shard.reconcileAt topology config now w).1.status.tablets

/-- The state at the end of a pass. -/
def finalState : PassState MemoryStore :=
  let input := shard.input topology config now
  (PassInput.phase (passCalls Pod) (podStrategy input) input.podSet
    (PassInput.phase (passCalls Claim) (claimStrategy input) input.claimSet (input.start w)).2).2

theorem phases_apply {σ : Type} (input : PassInput σ) (s : PassState σ) :
    (input.phases s).2 =
      (PassInput.phase input.cluster.duringPass.pods (podStrategy input) input.podSet
        (PassInput.phase input.cluster.duringPass.claims (claimStrategy input) input.claimSet
          s).2).2 := by
  rw [PassInput.phases, bind_apply]

theorem run_apply {σ : Type} (input : PassInput σ) (w : σ) :
    input.run w = (PassInput.report (input.phases (input.start w)).2,
      (input.phases (input.start w)).2.world) := by
  unfold PassInput.run
  generalize input.phases (input.start w) = outcome
  obtain ⟨⟨⟩, s⟩ := outcome
  rfl

theorem reconcileAt_apply :
    shard.reconcileAt topology config now w
      = (PassInput.report (shard.finalState topology config now w),
        (shard.finalState topology config now w).world) := by
  have hfinal : ((shard.input topology config now).phases
      ((shard.input topology config now).start w)).2 = shard.finalState topology config now w := by
    rw [phases_apply, finalState]
    rfl
  rw [← hfinal]
  exact run_apply (shard.input topology config now) w

theorem finalState_plan :
    (shard.finalState topology config now w).world =
        (shard.podPlan topology config now (shard.finalState topology config now w).status.tablets
          (shard.afterClaims now w)).run (shard.afterClaims now w) ∧
      (Turndown.isHealthy (shard.finalState topology config now w).status.tablets = true ↔
        shard.AllRemainReady now (shard.afterClaims now w)) := by
  have hclaims := claims_phase shard topology config now w
  unfold finalState
  dsimp only at hclaims ⊢
  generalize (PassInput.phase (passCalls Claim) (claimStrategy (shard.input topology config now))
    (shard.input topology config now).claimSet ((shard.input topology config now).start w)).2 = s
    at hclaims ⊢
  obtain ⟨hentered, htablets, hworld⟩ := hclaims
  -- all that the second half has to know of the first is what it entered, and the store it left
  have hpods := pods_phase shard topology config now hentered htablets
  dsimp only at hpods
  rw [hworld] at hpods
  exact hpods

/-- A pass carries out the plan for the claims, then the one for the pods. -/
theorem afterPass_eq :
    shard.afterPass topology config now w =
      (shard.podPlan topology config now (shard.reportedTablets topology config now w)
        (shard.afterClaims now w)).run (shard.afterClaims now w) := by
  have h := (shard.finalState_plan topology config now w).1
  rw [afterPass, reportedTablets, reconcileAt_apply]
  generalize shard.finalState topology config now w = s at h
  exact h

theorem isHealthy_reportedTablets :
    Turndown.isHealthy (shard.reportedTablets topology config now w) = true ↔
      shard.AllRemainReady now (shard.afterClaims now w) := by
  have h := (shard.finalState_plan topology config now w).2
  rw [reportedTablets, reconcileAt_apply]
  generalize shard.finalState topology config now w = s at h
  exact h

theorem rejects_afterPass (verb : Verb) (name : String) :
    (shard.afterPass topology config now w).rejects verb name = w.rejects verb name := by
  rw [afterPass_eq, Plan.rejects_run, rejects_afterClaims]

theorem rejections_afterPass :
    (shard.afterPass topology config now w).rejections = w.rejections := by
  rw [afterPass_eq, Plan.rejections_run]
  exact (shard.claimPlan now w).rejections_run w

theorem configMaps_afterPass :
    (shard.afterPass topology config now w).configMaps = w.configMaps := by
  rw [afterPass_eq, Plan.run_keeps (f := (·.configMaps)) fun _ _ _ => rfl]
  exact (shard.claimPlan now w).run_keeps (f := (·.configMaps)) (fun _ _ _ => rfl) w

theorem fetch?_claim_afterPass (key : ObjectKey) :
    (shard.afterPass topology config now w).fetch? Claim key
      = (shard.afterClaims now w).fetch? Claim key := by
  rw [afterPass_eq]
  exact congrArg (·.get? key) (Plan.claims_run _ _)

end Pass

/-! ## What is found -/

/-- What a pass finds of what is stored at a key. -/
def found (K : Type) [Stored K] (shard : Shard) (w : MemoryStore) (key : ObjectKey) : Option K :=
  (w.fetch? K key).filter fun object =>
    (ManagedObject.metadata object).isListed shard.ns shard.labels

theorem livePods_eq_found (shard : Shard) (now : Timestamp) (w : MemoryStore) (key : ObjectKey) :
    (shard.livePods now w).get? key = shard.found Pod w key :=
  ObjectSet.get?_liveIn (shard.objectSet now shard.keys) w key

theorem liveClaims_eq_found (shard : Shard) (now : Timestamp) (w : MemoryStore) (key : ObjectKey) :
    (shard.liveClaims now w).get? key = shard.found Claim w key :=
  ObjectSet.get?_liveIn (shard.objectSet now shard.claimKeys) w key

section Calls

variable {shard : Shard} {now : Timestamp} {w : MemoryStore} {key : ObjectKey}

theorem found_eq_some {K : Type} [Stored K] {object : K} (h : shard.found K w key = some object) :
    w.fetch? K key = some object := (Option.filter_eq_some_iff.1 h).1

theorem found_congr {K : Type} [Stored K] {w' : MemoryStore}
    (h : w'.fetch? K key = w.fetch? K key) : shard.found K w' key = shard.found K w key := by
  rw [found, h, found]

/-! ## Key by key -/

variable (now w) in
theorem claim_desired (h : key ∈ shard.claimKeys) :
    ∃ stamp, (shard.afterClaims now w).fetch? Claim key =
      (shard.claimAction key ((shard.liveClaims now w).get? key)).leaves (w.rejects · key.name) stamp
        (w.fetch? Claim key) := by
  refine (shard.claimPlan now w).fetch?_run (mem_claimPlan.2 ?_) w
  exact .inl ⟨h, rfl⟩

theorem claim_unwanted (h : key ∉ shard.claimKeys) {c : Claim}
    (hc : (shard.liveClaims now w).get? key = some c) :
    ∃ stamp, (shard.afterClaims now w).fetch? Claim key =
      (claimTurnDown w key c).leaves (w.rejects · key.name) stamp (some c) := by
  rw [← (get?_liveClaims.1 hc).1]
  refine (shard.claimPlan now w).fetch?_run (mem_claimPlan.2 ?_) w
  exact .inr ⟨h, c, hc, rfl⟩

theorem claim_other (h : key ∉ shard.claimKeys)
    (hc : (shard.liveClaims now w).get? key = none) :
    (shard.afterClaims now w).fetch? Claim key = w.fetch? Claim key :=
  (shard.claimPlan now w).fetch?_run_of_notMem (notMem_claimPlan h hc) w

variable (topology : Topology) (config : PassConfig)

/-- What the plan for the pods leaves at a key at which it has a call. -/
theorem pod_called {a : Action Pod}
    (h : (key, a) ∈ (shard.podPlan topology config now
      (shard.reportedTablets topology config now w) (shard.afterClaims now w)).entries) :
    ∃ stamp, (shard.afterPass topology config now w).fetch? Pod key =
      a.leaves (w.rejects · key.name) stamp (w.fetch? Pod key) := by
  obtain ⟨stamp, hn⟩ := Plan.fetch?_run _ h (shard.afterClaims now w)
  refine ⟨stamp, ?_⟩
  rw [afterPass_eq, hn, fetch?_pod_afterClaims]
  simp only [rejects_afterClaims]

variable (now w) in
theorem pod_desired (h : key ∈ shard.keys) :
    ∃ stamp, (shard.afterPass topology config now w).fetch? Pod key =
      (shard.podAction now (shard.afterClaims now w) key
        ((shard.livePods now w).get? key)).leaves (w.rejects · key.name) stamp (w.fetch? Pod key) := by
  refine pod_called topology config (mem_podPlan.2 (.inl ⟨h, ?_⟩))
  rw [livePods_afterClaims]

theorem pod_unwanted (h : key ∉ shard.keys) {p : Pod}
    (hp : (shard.livePods now w).get? key = some p) :
    ∃ n, (shard.afterPass topology config now w).fetch? Pod key =
      (shard.podTurnDown topology config (shard.reportedTablets topology config now w) p).leaves
        (w.rejects · key.name) n (some p) := by
  rw [← (get?_livePods.1 hp).1]
  refine pod_called topology config (mem_podPlan.2 (.inr ⟨h, p, ?_, rfl⟩))
  rw [livePods_afterClaims, hp]

theorem pod_other (h : key ∉ shard.keys) (hp : (shard.livePods now w).get? key = none) :
    (shard.afterPass topology config now w).fetch? Pod key = w.fetch? Pod key := by
  have hlive : (shard.livePods now (shard.afterClaims now w)).get? key = none := by
    rw [livePods_afterClaims, hp]
  rw [afterPass_eq, Plan.fetch?_run_of_notMem _ (notMem_podPlan h hlive), fetch?_pod_afterClaims]

/-! ## Removals -/

section Removals

variable {topology config} {p : Pod}

theorem podTurnDown_eq_delete {desired : OrdMap String TabletStatus} :
    shard.podTurnDown topology config desired p = .delete ↔
      p.metadata.isTerminating = false ∧ p.metadata.drainFinished = true ∧
        shard.primaryCheck topology config p = .notPrimary ∧
        Turndown.isHealthy desired = true := by
  have hreplace := Action.replace_ne_delete p
    { p with metadata := p.metadata.startDrain Turndown.drainReason }
  rw [podTurnDown_eq]
  by_cases hterm : p.metadata.isTerminating = true
  · simp [hterm]
  · by_cases hdrained : p.metadata.drainFinished = true
    · simp [hterm, hdrained]
    · simp [hterm, hdrained, hreplace]

/-- An unwanted pod that a pass finds is removed just when every gate is open. -/
theorem removed_iff_gates (hunwanted : key ∉ shard.keys)
    (hlive : (shard.livePods now w).get? key = some p) :
    (shard.afterPass topology config now w).fetch? Pod key = none ↔
      (p.metadata.isTerminating = false ∧ p.metadata.drainFinished = true ∧
        shard.primaryCheck topology config p = .notPrimary ∧
        Turndown.isHealthy (shard.reportedTablets topology config now w) = true) ∧
        w.rejects .delete key.name = false := by
  obtain ⟨n, hafter⟩ := pod_unwanted topology config hunwanted hlive
  rw [hafter, Action.leaves_eq_none_iff, podTurnDown_eq_delete]

end Removals

end Calls

/-! ## Where pods come from -/

/-- How a pod that is stored after a pass comes from what was stored at its key before. -/
inductive PodOrigin (shard : Shard) (key : ObjectKey) (rejectsCreate : Bool) (stored : Option Pod) :
    Pod → Prop where
  | kept (p : Pod) (before : stored = some p) : PodOrigin shard key rejectsCreate stored p
  | created (t : TabletSpec) (stamp : Stamp) (desired : shard.byKey.get? key = some t)
      (before : stored = none) (allowed : rejectsCreate = false) :
      PodOrigin shard key rejectsCreate stored (storedAs stamp true (t.newPod key))
  | updated (t : TabletSpec) (p : Pod) (f : ObjectMeta → ObjectMeta) (stamp : Stamp)
      (desired : shard.byKey.get? key = some t) (before : stored = some p)
      (markers : f = (·.unschedule) ∨ ∃ changes, f = (·.schedule changes)) :
      PodOrigin shard key rejectsCreate stored
        (storedAs stamp false (ManagedObject.mapMetadata f (shard.podNext t p)))
  | drained (p : Pod) (stamp : Stamp) (unwanted : key ∉ shard.keys) (before : stored = some p) :
      PodOrigin shard key rejectsCreate stored
        (storedAs stamp false { p with metadata := p.metadata.startDrain Turndown.drainReason })

section Origin

variable {shard : Shard} {topology : Topology} {config : PassConfig} {now : Timestamp}
variable {w : MemoryStore} {key : ObjectKey}

theorem podAction_eq_create {live : Option Pod} {object : Pod}
    (h : shard.podAction now w key live = .create object) :
    ∃ t, shard.byKey.get? key = some t ∧ live = none ∧ object = t.newPod key := by
  unfold podAction at h
  cases ht : shard.byKey.get? key with
  | none =>
      rw [ht] at h
      cases h
  | some t =>
      rw [ht] at h
      cases live with
      | none => exact ⟨t, rfl, rfl, (Action.create.inj h).symm⟩
      | some p =>
          simp only [ObjectSet.updateAction, Action.replace] at h
          split at h
          · split at h <;> cases h
          · split at h
            · cases h
            · split at h <;> cases h

theorem podAction_eq_update {live : Option Pod} {object : Pod}
    (h : shard.podAction now w key live = .update object) :
    ∃ t p f, shard.byKey.get? key = some t ∧ live = some p ∧
      (f = (·.unschedule) ∨ ∃ changes, f = (·.schedule changes)) ∧
      object = ManagedObject.mapMetadata f (shard.podNext t p) := by
  unfold podAction at h
  cases ht : shard.byKey.get? key with
  | none =>
      rw [ht] at h
      cases h
  | some t =>
      rw [ht] at h
      cases live with
      | none => cases h
      | some p =>
          simp only [ObjectSet.updateAction] at h
          split at h
          · exact ⟨t, p, _, rfl, rfl, .inl rfl, Action.replace_eq_update h⟩
          · split at h
            · cases h
            · exact ⟨t, p, _, rfl, rfl, .inr ⟨_, rfl⟩, Action.replace_eq_update h⟩

theorem podTurnDown_eq_update {desired : OrdMap String TabletStatus} {p object : Pod}
    (h : shard.podTurnDown topology config desired p = .update object) :
    object = { p with metadata := p.metadata.startDrain Turndown.drainReason } := by
  rw [podTurnDown_eq] at h
  split at h
  · cases h
  · split at h
    · split at h <;> cases h
    · exact Action.replace_eq_update h

/-- Every pod that is stored after a pass is an old one, kept, brought up to date or asked to drain, or
the new one of a desired tablet. -/
theorem podOrigin {p' : Pod}
    (h : (shard.afterPass topology config now w).fetch? Pod key = some p') :
    PodOrigin shard key (w.rejects .create key.name) (w.fetch? Pod key) p' := by
  by_cases hkey : key ∈ shard.keys
  · obtain ⟨n, hafter⟩ := pod_desired now w topology config hkey
    rw [h] at hafter
    rcases Action.leaves_cases hafter.symm with hkept | ⟨object, hcreate, hallowed, hnone, rfl⟩ |
      ⟨object, hupdate, hsome, rfl⟩
    · exact .kept p' hkept
    · obtain ⟨t, ht, -, rfl⟩ := podAction_eq_create hcreate
      exact .created t n ht hnone hallowed
    · obtain ⟨t, p, f, ht, hlive, hf, rfl⟩ := podAction_eq_update hupdate
      exact .updated t p f n ht (get?_livePods.1 hlive).1 hf
  · cases hlive : (shard.livePods now w).get? key with
    | none =>
        rw [pod_other topology config hkey hlive] at h
        exact .kept p' h
    | some p =>
        obtain ⟨n, hafter⟩ := pod_unwanted topology config hkey hlive
        have hstored := (get?_livePods.1 hlive).1
        rw [h] at hafter
        rcases Action.leaves_cases hafter.symm with hkept | ⟨_, _, _, hnone, _⟩ |
          ⟨object, hupdate, _, rfl⟩
        · exact .kept p' (hstored.trans hkept)
        · cases hnone
        · -- an unwanted pod is written for one reason only
          rw [podTurnDown_eq_update hupdate]
          exact .drained p n hkey hstored

end Origin

/-! ## Where claims come from -/

/-- How a claim that is stored after a pass comes from what was stored at its key before. -/
inductive ClaimOrigin (shard : Shard) (key : ObjectKey) (stored : Option Claim) : Claim → Prop where
  | kept (c : Claim) (before : stored = some c) : ClaimOrigin shard key stored c
  | created (t : TabletSpec) (c : Claim) (stamp : Stamp) (desired : key ∈ shard.claimKeys)
      (tablet : shard.byKey.get? key = some t) (new : t.newClaim? key = some c)
      (before : stored = none) : ClaimOrigin shard key stored (storedAs stamp true c)
  | updated (t : TabletSpec) (c : Claim) (stamp : Stamp) (tablet : shard.byKey.get? key = some t)
      (before : stored = some c) :
      ClaimOrigin shard key stored
        (storedAs stamp false (ManagedObject.mapMetadata (·.unschedule) (c.updateInPlace t)))

section ClaimOrigins

variable {shard : Shard} {topology : Topology} {config : PassConfig} {now : Timestamp}
variable {w : MemoryStore} {key : ObjectKey}

theorem claimAction_eq_create {live : Option Claim} {object : Claim}
    (h : shard.claimAction key live = .create object) :
    ∃ t, shard.byKey.get? key = some t ∧ t.newClaim? key = some object := by
  unfold claimAction at h
  cases ht : shard.byKey.get? key with
  | none =>
      rw [ht] at h
      cases h
  | some t =>
      rw [ht] at h
      cases live with
      | none =>
          dsimp only at h
          cases hnew : t.newClaim? key with
          | none =>
              rw [hnew] at h
              cases h
          | some c =>
              rw [hnew] at h
              exact ⟨t, rfl, hnew.trans (congrArg some (Action.create.inj h))⟩
      | some c =>
          simp only [Action.replace] at h
          split at h <;> cases h

theorem claimAction_eq_update {live : Option Claim} {object : Claim}
    (h : shard.claimAction key live = .update object) :
    ∃ t c, shard.byKey.get? key = some t ∧ live = some c ∧
      object = ManagedObject.mapMetadata (·.unschedule) (c.updateInPlace t) := by
  unfold claimAction at h
  cases ht : shard.byKey.get? key with
  | none =>
      rw [ht] at h
      cases h
  | some t =>
      rw [ht] at h
      cases live with
      | none =>
          simp only [ObjectSet.createAction] at h
          split at h <;> cases h
      | some c => exact ⟨t, c, rfl, rfl, Action.replace_eq_update h⟩

theorem claimTurnDown_cases (s : MemoryStore) (key : ObjectKey) (c : Claim) :
    claimTurnDown s key c = .rest ∨ claimTurnDown s key c = .delete := by
  unfold claimTurnDown
  split
  · exact .inl rfl
  · exact .inr rfl

/-- Every claim that is stored after a pass is an old one, kept or brought up to date, or the new one of a
desired tablet. -/
theorem claimOrigin {c' : Claim}
    (h : (shard.afterPass topology config now w).fetch? Claim key = some c') :
    ClaimOrigin shard key (w.fetch? Claim key) c' := by
  rw [fetch?_claim_afterPass] at h
  by_cases hkey : key ∈ shard.claimKeys
  · obtain ⟨n, hafter⟩ := claim_desired now w hkey
    rw [h] at hafter
    rcases Action.leaves_cases hafter.symm with hkept | ⟨object, hcreate, -, hnone, rfl⟩ |
      ⟨object, hupdate, hsome, rfl⟩
    · exact .kept c' hkept
    · obtain ⟨t, ht, hnew⟩ := claimAction_eq_create hcreate
      exact .created t object n hkey ht hnew hnone
    · obtain ⟨t, c, ht, hlive, rfl⟩ := claimAction_eq_update hupdate
      exact .updated t c n ht (get?_liveClaims.1 hlive).1
  · cases hlive : (shard.liveClaims now w).get? key with
    | none =>
        rw [claim_other hkey hlive] at h
        exact .kept c' h
    | some c =>
        obtain ⟨n, hafter⟩ := claim_unwanted hkey hlive
        rw [h] at hafter
        -- an unwanted claim is never written
        rcases Action.leaves_cases hafter.symm with hkept | ⟨_, hcreate, _⟩ | ⟨_, hupdate, _⟩
        · exact .kept c' ((get?_liveClaims.1 hlive).1.trans hkept)
        · rcases claimTurnDown_cases w key c with h' | h' <;> rw [h'] at hcreate <;> cases hcreate
        · rcases claimTurnDown_cases w key c with h' | h' <;> rw [h'] at hupdate <;> cases hupdate

end ClaimOrigins

/-! ## A small shard -/

/-- A shard with one pool of so many replicas, to try things on. -/
def sample (replicas : Int32) : Shard where
  metadata := {
    ns := some "test"
    labels := some (.ofList [(LabelKey.cluster, "c"), (LabelKey.keyspace, "ks")])
    generation := some 1 }
  spec := { name := "-", tabletPools := [{ cell := "zone1", type := .replica, replicas }] }

/-- The aliases of its first two tablets. -/
def sampleFirst : TabletAlias := ⟨"zone1", 2804508004⟩
def sampleSecond : TabletAlias := ⟨"zone1", 2816291251⟩

/-- The key of the objects of a tablet of the small shard. -/
def sampleKey (tablet : TabletAlias) : ObjectKey := ⟨"test", tablet.podName "c"⟩

/-- A pod of the small shard that is ready, and carries the given annotations. -/
def samplePod (tablet : TabletAlias) (annotations : StringMap) : Pod where
  metadata := {
    name := some (sampleKey tablet).name
    ns := some (sampleKey tablet).ns
    labels := some ((sample 1).labels.insertMany [
      (LabelKey.cell, tablet.cell), (LabelKey.tabletUid, toString tablet.uid.toNat)])
    annotations := some annotations }
  status := some { conditions := some [{ type := "Ready", status := "True" }] }

end Shard

/-- A source of uids that counts, and a store that holds nothing. -/
def sampleUid (write : Nat) : String := "uid-" ++ toString write
def MemoryStore.sample : MemoryStore := .empty sampleUid

/-- A store that holds the given pods. -/
def MemoryStore.ofPods (pods : List Pod) : MemoryStore :=
  pods.foldl (fun s p =>
    match s.insert p with
    | .ok (_, s) => s
    | .error _ => s) .sample

/-- A store that holds the first pod of the small shard, which records nothing, and the pod in it. -/
def Shard.sampleStored : MemoryStore := .ofPods [samplePod sampleFirst .empty]
def Shard.sampleStoredPod : Pod := (sampleStored.fetch? Pod (sampleKey sampleFirst)).getD default

/-- A topology that knows the small shard, and no primary of it. -/
def Topology.sample : Topology := ({} : Topology).setPrimary ⟨"ks", "-"⟩ none

/-- The beginning of time. -/
def Timestamp.sample : Timestamp := .epoch

end TabletFleet
