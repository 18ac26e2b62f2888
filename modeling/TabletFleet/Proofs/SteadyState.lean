import TabletFleet.Proofs.Pass.Unreleased

set_option autoImplicit false

/-! # Steady state

Passes that are made again and again, with nothing else touching the objects and no pod released to be
made anew, come to rest after the second. The first pass creates what is missing and removes the pods
that may go; what it has started is finished by the second, which removes the claims of the pods that
went and brings the new objects up to date (`Shard.Tended`, `Shard.Settled`). -/

namespace TabletFleet

open ObjectSet (Attended UpToDate)

namespace Shard

section Passes

variable {shard : Shard} {topology : Topology} {config : PassConfig} {now : Timestamp}
variable {w : MemoryStore} {key : ObjectKey} {t : TabletSpec}

/-! ## After one pass -/

/-- What is desired is there, or will never be, and nothing more is to be done for unwanted pods: what
holds after any pass. -/
structure Tended (shard : Shard) (topology : Topology) (config : PassConfig) (w : MemoryStore) :
    Prop where
  released : shard.NothingReleased w
  claims : ∀ key t, key ∈ shard.claimKeys → shard.byKey.get? key = some t →
    Attended (t.newClaim? key) (w.rejects · key.name) (w.fetch? Claim key)
  pods : ∀ key t, shard.byKey.get? key = some t →
    Attended (some (t.newPod key)) (w.rejects · key.name) (w.fetch? Pod key)
  unwanted : ∀ key p desired, key ∉ shard.keys → shard.found Pod w key = some p →
    (Turndown.isHealthy desired = true → shard.AllServing w) →
    (shard.podTurnDown topology config desired p).Idle (w.rejects · key.name) (some p)

theorem rejects_afterPass_name (name : String) :
    ((shard.afterPass topology config now w).rejects · name) = (w.rejects · name) :=
  funext fun verb => shard.rejects_afterPass topology config now w verb name

theorem tended_afterPass (h : shard.NothingReleased w) :
    shard.Tended topology config (shard.afterPass topology config now w) := by
  refine ⟨h.afterPass, ?_, ?_, ?_⟩
  · intro key t hkey ht
    obtain ⟨n, hafter⟩ := claim_upkeep topology config now w hkey ht
    rw [rejects_afterPass_name, hafter]
    exact ObjectSet.attended_leaves
  · intro key t ht
    obtain ⟨n, hafter⟩ := pod_upkeep topology config now h ht
    rw [rejects_afterPass_name, hafter]
    exact ObjectSet.attended_leaves
  · intro key p' desired hkey hp' hserving
    have hstored' := found_eq_some hp'
    rw [rejects_afterPass_name]
    cases hp : shard.found Pod w key with
    | none =>
        -- a pod that was not found has not changed, so it is not found again
        have hother := pod_other topology config hkey ((shard.livePods_eq_found now w key).trans hp)
        rw [found_congr hother, hp] at hp'
        cases hp'
    | some p =>
        obtain ⟨n, hafter⟩ := pod_unwanted topology config hkey
          ((shard.livePods_eq_found now w key).trans hp)
        rw [hstored'] at hafter
        refine idle_podTurnDown (fun hhealthy => ?_) hafter.symm
        exact (isHealthy_iff_allServing h).2 ((hserving hhealthy).before h)

/-- Once the shard is tended, no pass removes a pod. -/
theorem Tended.pod_remains (h : shard.Tended topology config w)
    (hp : (w.fetch? Pod key).isSome = true) :
    ((shard.afterPass topology config now w).fetch? Pod key).isSome = true := by
  by_cases hkey : key ∈ shard.keys
  · obtain ⟨t, ht⟩ := exists_byKey hkey
    obtain ⟨n, hafter⟩ := pod_upkeep topology config now h.released ht
    rw [hafter]
    exact Action.isSome_leaves (ObjectSet.upkeep_ne_delete _) _ n hp
  · cases hfound : shard.found Pod w key with
    | none =>
        rw [pod_other topology config hkey ((shard.livePods_eq_found now w key).trans hfound)]
        exact hp
    | some p =>
        obtain ⟨n, hafter⟩ := pod_unwanted topology config hkey
          ((shard.livePods_eq_found now w key).trans hfound)
        rw [hafter, Action.leaves_of_idle]
        · rfl
        · exact h.unwanted key p _ hkey hfound (isHealthy_iff_allServing h.released).1

/-! ## After two passes -/

/-- Moreover, what is desired is up to date, and nothing more is to be done for unwanted claims: what
holds after any two passes. -/
structure Settled (shard : Shard) (topology : Topology) (config : PassConfig) (w : MemoryStore) :
    Prop where
  tended : shard.Tended topology config w
  claims : ∀ key t, key ∈ shard.claimKeys → shard.byKey.get? key = some t →
    UpToDate (·.kept t) (w.rejects · key.name) (shard.found Claim w key)
  pods : ∀ key t, shard.byKey.get? key = some t →
    UpToDate (shard.podKept t (t.resizedIn w key)) (w.rejects · key.name) (shard.found Pod w key)
  unwanted : ∀ key c, key ∉ shard.claimKeys → shard.found Claim w key = some c →
    (claimTurnDown w key c).Idle (w.rejects · key.name) (some c)

theorem resizedIn_afterPass (t : TabletSpec) (key : ObjectKey) :
    t.resizedIn (shard.afterPass topology config now w) key
      = t.resizedIn (shard.afterClaims now w) key := by
  rw [afterPass_eq]
  exact resizedIn_congr (Plan.claims_run _ _) (Plan.rejections_run _ _) t key

theorem settled_afterPass (h : shard.Tended topology config w) :
    shard.Settled topology config (shard.afterPass topology config now w) := by
  refine ⟨tended_afterPass h.released, ?_, ?_, ?_⟩
  · intro key t hkey ht
    obtain ⟨n, hafter⟩ := claim_upkeep topology config now w hkey ht
    rw [rejects_afterPass_name, found, hafter]
    refine ObjectSet.upToDate_leaves (h.claims key t hkey ht) fun c => ?_
    rw [Claim.kept_storedAs, Claim.kept_kept]
  · intro key t ht
    obtain ⟨n, hafter⟩ := pod_upkeep topology config now h.released ht
    -- the claims had their final sizes by the time the pods were visited
    rw [rejects_afterPass_name, found, hafter, resizedIn_afterPass]
    exact ObjectSet.upToDate_leaves (h.pods key t ht) fun p =>
      podKept_stored (marks_resizedIn t _ key) p n false
  · intro key c' hkey hc'
    have hstored' := found_eq_some hc'
    rw [rejects_afterPass_name]
    cases hc : shard.found Claim w key with
    | none =>
        have hother : (shard.afterClaims now w).fetch? Claim key = w.fetch? Claim key :=
          claim_other hkey ((shard.liveClaims_eq_found now w key).trans hc)
        rw [← fetch?_claim_afterPass shard topology config] at hother
        rw [found_congr hother, hc] at hc'
        cases hc'
    | some c =>
        obtain ⟨n, hafter⟩ := claim_unwanted hkey ((shard.liveClaims_eq_found now w key).trans hc)
        rw [← fetch?_claim_afterPass shard topology config, hstored'] at hafter
        exact idle_claimTurnDown (rejections_afterPass ..) h.pod_remains hafter.symm

/-! ## At rest -/

/-- A pass over a settled shard finds nothing to do for claims. -/
theorem Settled.afterClaims_eq (h : shard.Settled topology config w) :
    shard.afterClaims now w = w := by
  refine (shard.claimPlan now w).run_of_idle fun e he => ?_
  rcases mem_claimPlan.1 he with ⟨hkey, heq⟩ | ⟨hkey, c, hc, heq⟩
  · obtain ⟨t, ht⟩ := exists_byKey (shard.claimKeys_subset hkey)
    rw [heq, liveClaims_eq_found, claimAction_eq_upkeep ht]
    exact ObjectSet.idle_upkeep (h.tended.claims e.1 t hkey ht) (h.claims e.1 t hkey ht)
  · rw [liveClaims_eq_found] at hc
    rw [heq, found_eq_some hc]
    exact h.unwanted e.1 c hkey hc

/-- A pass over a settled shard leaves the store as it is. -/
theorem Settled.afterPass_eq_self (h : shard.Settled topology config w) :
    shard.afterPass topology config now w = w := by
  rw [afterPass_eq, h.afterClaims_eq]
  refine Plan.run_of_idle _ fun e he => ?_
  rcases mem_podPlan.1 he with ⟨hkey, heq⟩ | ⟨hkey, p, hp, heq⟩
  · obtain ⟨t, ht⟩ := exists_byKey hkey
    rw [heq, livePods_eq_found, podAction_eq_upkeep h.tended.released ht]
    exact ObjectSet.idle_upkeep (h.tended.pods e.1 t ht) (h.pods e.1 t ht)
  · rw [livePods_eq_found] at hp
    rw [heq, found_eq_some hp]
    exact h.tended.unwanted e.1 p _ hkey hp (isHealthy_iff_allServing h.tended.released).1

end Passes

/-! ## Repeated passes -/

/-- The store after so many passes, made at the given times. -/
def repeated (shard : Shard) (topology : Topology) (config : PassConfig) (times : Nat → Timestamp)
    (w : MemoryStore) : Nat → MemoryStore
  | 0 => w
  | n + 1 => (shard.reconcileAt topology config (times n)
      (repeated shard topology config times w n)).2

section Repeated

variable {shard : Shard} {topology : Topology} {config : PassConfig} {times : Nat → Timestamp}
variable {w : MemoryStore}

/-- The annotations of a tablet are a constant, those of its pool, and those of a backup location. -/
theorem annotations_eq_none {key : String} (hkey : key ≠ AnnotationKey.drainSupported)
    (hpools : ∀ pool ∈ shard.spec.tabletPools, pool.annotations.get? key = none)
    (hlocations : ∀ location ∈ shard.spec.backupLocations, location.annotations.get? key = none)
    {t : TabletSpec} (ht : t ∈ shard.tablets) : t.annotations.get? key = none := by
  obtain ⟨pool, hpool, i, -, rfl⟩ := mem_tablets_iff.1 ht
  have hown : ((OrdMap.ofList [(AnnotationKey.drainSupported, drainPurpose)]).merge
      pool.annotations).get? key = none := by
    rw [OrdMap.get?_merge, hpools pool hpool, Option.none_or, OrdMap.ofList,
      OrdMap.get?_insertMany_of_notMem (by simpa using hkey), OrdMap.get?_empty]
  have hannotations : (shard.poolAnnotations pool).get? key = none := by
    unfold poolAnnotations
    cases hlocation : shard.backupLocation? pool.backupLocationName with
    | none => exact hown
    | some location =>
        have hmem : location ∈ shard.spec.backupLocations := List.mem_of_find?_eq_some hlocation
        exact (OrdMap.get?_merge ..).trans (by rw [hlocations location hmem, hown, Option.none_or])
  exact hannotations

/-- *Steady state.* If pods are only made anew once they are released, and none is or comes to be, then
passes with nothing else touching the objects leave the store as they find it, from the third on:
whatever was stored at first, whatever is rejected, and at whatever times they are made. -/
theorem steady_after_two_passes (hexternal : shard.spec.updateStrategy = .external)
    (hpools : ∀ pool ∈ shard.spec.tabletPools,
      pool.annotations.get? AnnotationKey.rolloutReleased = none)
    (hlocations : ∀ location ∈ shard.spec.backupLocations,
      location.annotations.get? AnnotationKey.rolloutReleased = none)
    (hstored : ∀ key p, w.fetch? Pod key = some p → p.metadata.released = false)
    {n : Nat} (hn : 2 ≤ n) :
    repeated shard topology config times w (n + 1) = repeated shard topology config times w n := by
  have hreleased : shard.NothingReleased w :=
    ⟨hexternal, fun t ht => annotations_eq_none (by decide) hpools hlocations ht, hstored⟩
  have htended : shard.Tended topology config (repeated shard topology config times w 1) :=
    tended_afterPass hreleased
  have hsettled : shard.Settled topology config (repeated shard topology config times w 2) :=
    settled_afterPass htended
  -- each later pass is made on the settled store that the second one left
  have hrest : ∀ m, repeated shard topology config times w (m + 2)
      = repeated shard topology config times w 2 := by
    intro m
    induction m with
    | zero => rfl
    | succ m ih =>
        have hpass : repeated shard topology config times w (m + 1 + 2)
            = shard.afterPass topology config (times (m + 2))
                (repeated shard topology config times w (m + 2)) := rfl
        rw [hpass, ih]
        exact hsettled.afterPass_eq_self
  obtain ⟨m, rfl⟩ := Nat.exists_eq_add_of_le' hn
  have hsucc := hrest (m + 1)
  rw [Nat.add_right_comm] at hsucc
  rw [hsucc, hrest m]

end Repeated

/-- The second pass over a new shard still writes: it stamps the pod that the first one created. The third
does not. -/
theorem sample_at_rest :
    (repeated (sample 1) .sample {} (fun _ => .sample) .sample 1).revision = 1 ∧
    (repeated (sample 1) .sample {} (fun _ => .sample) .sample 2).revision = 2 ∧
    repeated (sample 1) .sample {} (fun _ => .sample) .sample 3
      = repeated (sample 1) .sample {} (fun _ => .sample) .sample 2 := by
  refine ⟨by decide +kernel, by decide +kernel, ?_⟩
  exact steady_after_two_passes rfl (by decide) (by decide) (fun _ _ h => by cases h) (Nat.le_refl 2)

end Shard

end TabletFleet
