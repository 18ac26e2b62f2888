import TabletFleet.Proofs.Pass.Outcome
import TabletFleet.Proofs.Pass.Upkeep
import TabletFleet.Proofs.Reconcile.Settling

set_option autoImplicit false

/-! # Passes that make nothing anew

What a pass does as long as no pod is released to be made anew. Desired objects are created or kept up,
so their keys settle as any desired key does; no pass makes a pod serve; and what a pass leaves of an
unwanted object the next one leaves alone, unless its reasons to do so have gone. -/

namespace TabletFleet

open ObjectSet (upkeep)

/-! ## Pods that are not released -/

namespace Shard

/-- No pod is released to be made anew, none that comes to be ever is, and none is made anew without
being released. -/
structure NothingReleased (shard : Shard) (w : MemoryStore) : Prop where
  external : shard.spec.updateStrategy = .external
  tablets : ∀ t ∈ shard.tablets, t.annotations.get? AnnotationKey.rolloutReleased = none
  stored : ∀ key p, w.fetch? Pod key = some p → p.metadata.released = false

section Passes

variable {shard : Shard} {topology : Topology} {config : PassConfig} {now : Timestamp}
variable {w : MemoryStore} {key : ObjectKey} {t : TabletSpec}

theorem released_podNext {p : Pod}
    (ht : t.annotations.get? AnnotationKey.rolloutReleased = none)
    (hp : p.metadata.released = false) : (shard.podNext t p).metadata.released = false := by
  rw [ObjectMeta.released, ObjectMeta.hasAnnotation, ObjectMeta.annotation?, annotations_podNext,
    Option.bind_some, get?_nextAnnotations, podAnnotations, OrdMap.get?_insert,
    if_neg (by decide), ht, Option.none_or]
  exact hp

theorem released_annotate {m : ObjectMeta} {k v : String} (hk : AnnotationKey.rolloutReleased ≠ k) :
    (m.annotate k v).released = m.released := by
  rw [ObjectMeta.released, ObjectMeta.hasAnnotation, ObjectMeta.annotation?_annotate, if_neg hk]
  rfl

theorem released_of_podOrigin {rejectsCreate : Bool} {stored : Option Pod} {p' : Pod}
    (h : PodOrigin shard key rejectsCreate stored p')
    (htablets : ∀ t ∈ shard.tablets, t.annotations.get? AnnotationKey.rolloutReleased = none)
    (hstored : ∀ p, stored = some p → p.metadata.released = false) :
    p'.metadata.released = false := by
  cases h with
  | kept _ before => exact hstored p' before
  | created t n desired before allowed =>
      have hnone := htablets t (of_byKey desired).1
      have hnew : (t.annotations.insert AnnotationKey.specHash t.podSpec.hash).get?
          AnnotationKey.rolloutReleased = none := by
        rw [OrdMap.get?_insert, if_neg (by decide), hnone]
      exact congrArg Option.isSome hnew
  | updated t p f n desired before markers =>
      have hnext : (shard.podNext t p).metadata.released = false :=
        released_podNext (htablets t (of_byKey desired).1) (hstored p before)
      rcases markers with rfl | ⟨changes, rfl⟩
      · have hoff := ObjectMeta.annotation?_unschedule (shard.podNext t p).metadata
          AnnotationKey.rolloutReleased
        rw [if_pos (.inl rfl)] at hoff
        exact congrArg Option.isSome hoff
      · exact (released_annotate (by decide)).trans hnext
  | drained p n unwanted before =>
      have hsame : (p.metadata.startDrain Turndown.drainReason).released = p.metadata.released := by
        unfold ObjectMeta.startDrain
        split
        · rfl
        · exact released_annotate (by decide)
      exact hsame.trans (hstored p before)

/-- No pass releases a pod. -/
theorem NothingReleased.afterPass (h : shard.NothingReleased w) :
    shard.NothingReleased (shard.afterPass topology config now w) := by
  refine ⟨h.external, h.tablets, fun key p' hp' => ?_⟩
  exact released_of_podOrigin (podOrigin hp') h.tablets (h.stored key)

/-! ## The calls for desired objects -/

theorem claimAction_eq_upkeep (ht : shard.byKey.get? key = some t) (live : Option Claim) :
    shard.claimAction key live = upkeep (t.newClaim? key) (·.kept t) live := by
  rw [claimAction, ht]
  cases live <;> rfl

theorem podAction_eq_upkeep (h : shard.NothingReleased w) (ht : shard.byKey.get? key = some t)
    (s : MemoryStore) :
    shard.podAction now s key (shard.found Pod w key) =
      upkeep (some (t.newPod key)) (shard.podKept t (t.resizedIn s key)) (shard.found Pod w key) := by
  rw [podAction, ht]
  cases hp : shard.found Pod w key with
  | none => rfl
  | some p => exact updateAction_eq_replace h.external (h.stored key p (found_eq_some hp))

/-- What a pass leaves at the key of a desired claim. -/
theorem claim_upkeep (topology : Topology) (config : PassConfig) (now : Timestamp) (w : MemoryStore)
    (hkey : key ∈ shard.claimKeys) (ht : shard.byKey.get? key = some t) :
    ∃ n, (shard.afterPass topology config now w).fetch? Claim key =
      (upkeep (t.newClaim? key) (·.kept t) (shard.found Claim w key)).leaves
        (w.rejects · key.name) n (w.fetch? Claim key) := by
  obtain ⟨n, hafter⟩ := claim_desired now w hkey
  refine ⟨n, ?_⟩
  rw [fetch?_claim_afterPass, hafter, claimAction_eq_upkeep ht, liveClaims_eq_found]

/-- What a pass leaves at the key of a desired pod. -/
theorem pod_upkeep (topology : Topology) (config : PassConfig) (now : Timestamp)
    (h : shard.NothingReleased w) (ht : shard.byKey.get? key = some t) :
    ∃ stamp, (shard.afterPass topology config now w).fetch? Pod key =
      (upkeep (some (t.newPod key)) (shard.podKept t (t.resizedIn (shard.afterClaims now w) key))
        (shard.found Pod w key)).leaves (w.rejects · key.name) stamp (w.fetch? Pod key) := by
  have hkey : key ∈ shard.keys := (shard.isSome_byKey key).1 (by rw [ht]; rfl)
  obtain ⟨stamp, hafter⟩ := pod_desired now w topology config hkey
  refine ⟨stamp, ?_⟩
  rw [hafter, livePods_eq_found, podAction_eq_upkeep h ht]

/-! ## Health -/

/-- Every desired tablet has a pod that serves. -/
def AllServing (shard : Shard) (w : MemoryStore) : Prop :=
  ∀ key ∈ shard.keys, ∃ p, shard.found Pod w key = some p ∧ p.isServing = true

theorem isHealthy_iff_allServing (h : shard.NothingReleased w) :
    Turndown.isHealthy (shard.reportedTablets topology config now w) = true ↔
      shard.AllServing w := by
  rw [isHealthy_reportedTablets]
  refine forall_congr' fun key => forall_congr' fun hkey => ?_
  obtain ⟨t, ht⟩ := exists_byKey hkey
  rw [livePods_afterClaims, livePods_eq_found, podAction_eq_upkeep h ht]
  refine exists_congr fun p => and_congr_right fun _ => ?_
  simp [ObjectSet.upkeep_ne_delete]

theorem readyCondition?_storedAs (stamp : Stamp) (isNew : Bool) (p : Pod) :
    (storedAs stamp isNew p).readyCondition? = p.readyCondition?.map (·.written) := by
  have hstatus : (storedAs stamp isNew p).status = p.status.map (·.written) := rfl
  unfold Pod.readyCondition?
  rw [hstatus]
  cases p.status with
  | none => rfl
  | some status =>
      cases hconditions : status.conditions with
      | none => simp [PodStatus.written, hconditions]
      | some conditions =>
          simp only [PodStatus.written, hconditions, Option.map_some, Option.bind_eq_bind,
            Option.bind_some, Condition.find?, List.find?_map]
          rfl

theorem isServing_storedAs (stamp : Stamp) (isNew : Bool) (p : Pod) :
    (storedAs stamp isNew p).isServing = p.isServing := by
  have hready : (storedAs stamp isNew p).isReady = p.isReady := by
    unfold Pod.isReady
    rw [readyCondition?_storedAs]
    cases p.readyCondition? <;> rfl
  have hterm : (storedAs stamp isNew p).metadata.isTerminating = p.metadata.isTerminating :=
    Option.isSome_map
  rw [Pod.isServing, hready, hterm, Pod.isServing]

/-- No pass makes a pod serve. -/
theorem AllServing.before (h : shard.NothingReleased w)
    (hserving : shard.AllServing (shard.afterPass topology config now w)) : shard.AllServing w := by
  intro key hkey
  obtain ⟨t, ht⟩ := exists_byKey hkey
  obtain ⟨n, hafter⟩ := pod_upkeep topology config now h ht
  obtain ⟨p', hp', hserves⟩ := hserving key hkey
  obtain ⟨hstored', hlisted⟩ := Option.filter_eq_some_iff.1 hp'
  rw [hafter] at hstored'
  cases hp : shard.found Pod w key with
  | none =>
      rw [hp] at hstored'
      rcases Action.leaves_cases hstored' with hkept | ⟨object, hcreate, -, -, rfl⟩ |
        ⟨object, hupdate, -, -⟩
      · rw [found, hkept, Option.filter_some, if_pos hlisted] at hp
        cases hp
      · -- nobody has reported on a new pod yet
        obtain rfl := Action.create.inj hcreate
        cases hserves
      · cases hupdate
  | some p =>
      rw [hp, found_eq_some hp] at hstored'
      rcases Action.leaves_replace_cases hstored' with ⟨rfl, -⟩ | rfl
      · exact ⟨p', rfl, hserves⟩
      · rw [isServing_storedAs] at hserves
        exact ⟨p, rfl, hserves⟩

/-! ## The calls for unwanted objects -/

/-- A pod that was asked to drain is waited for. -/
theorem podTurnDown_eq_rest {desired : OrdMap String TabletStatus} {p : Pod}
    (hundrained : p.metadata.drainFinished = false) (hstarted : p.metadata.drainStarted = true) :
    shard.podTurnDown topology config desired p = .rest := by
  rw [podTurnDown_eq, hundrained]
  split
  · rfl
  · rw [if_neg (by decide), ObjectMeta.startDrain, if_pos hstarted, Action.replace, if_pos rfl]

/-- What a pass leaves of an unwanted pod is left alone by the next one, unless it finds the shard
healthy and the first did not. -/
theorem idle_podTurnDown {desired desired' : OrdMap String TabletStatus} {p p' : Pod}
    {rejects : Verb → Bool} {stamp : Stamp}
    (hhealthy : Turndown.isHealthy desired' = true → Turndown.isHealthy desired = true)
    (hafter : (shard.podTurnDown topology config desired p).leaves rejects stamp (some p) = some p') :
    (shard.podTurnDown topology config desired' p').Idle rejects (some p') := by
  rw [podTurnDown_eq] at hafter ⊢
  by_cases hterm : p.metadata.isTerminating = true
  · rw [if_pos hterm] at hafter
    obtain rfl := Option.some.inj hafter
    rw [if_pos hterm]
    trivial
  · rw [if_neg hterm] at hafter
    by_cases hdrained : p.metadata.drainFinished = true
    · rw [if_pos hdrained] at hafter
      split at hafter
      · -- it may go and is still there, so the deletion must have been rejected
        rw [Action.leaves] at hafter
        split at hafter
        · next hrejected =>
            obtain rfl := Option.some.inj hafter
            rw [if_neg hterm, if_pos hdrained]
            split
            · exact .inl hrejected
            · trivial
        · cases hafter
      · next hgates =>
          obtain rfl := Option.some.inj hafter
          rw [if_neg hterm, if_pos hdrained,
            if_neg fun hopen => hgates ⟨hopen.1, hhealthy hopen.2⟩]
          trivial
    · rw [if_neg hdrained] at hafter
      rcases Action.leaves_replace_cases hafter with ⟨rfl, hdone⟩ | rfl
      · rw [if_neg hterm, if_neg hdrained]
        exact Action.idle_replace hdone
      · have hundrained : (p.metadata.startDrain Turndown.drainReason).drainFinished = false := by
          rw [ObjectMeta.drainFinished_startDrain]
          exact Bool.eq_false_iff.2 hdrained
        have hstarted := p.metadata.drainStarted_startDrain Turndown.drainReason
        rw [← podTurnDown_eq, podTurnDown_eq_rest hundrained hstarted]
        trivial

/-- What a pass leaves of an unwanted claim is left alone by the next one, unless the pod at its key went
in the meantime. -/
theorem idle_claimTurnDown {s s' : MemoryStore} {c c' : Claim} {stamp : Stamp}
    (hrejections : s'.rejections = s.rejections)
    (hpod : (s.fetch? Pod key).isSome = true → (s'.fetch? Pod key).isSome = true)
    (hafter : (claimTurnDown s key c).leaves (s.rejects · key.name) stamp (some c) = some c') :
    (claimTurnDown s' key c').Idle (s.rejects · key.name) (some c') := by
  have hrejects : s'.rejects .get key.name = s.rejects .get key.name := by
    rw [MemoryStore.rejects, hrejections, MemoryStore.rejects]
  rcases claimTurnDown_cases s key c with hrest | hdelete
  · rw [hrest] at hafter
    obtain rfl := Option.some.inj hafter
    have hrest' : claimTurnDown s' key c = .rest := by
      unfold claimTurnDown at hrest ⊢
      split at hrest
      · next hkept =>
          rw [Bool.or_eq_true] at hkept
          rw [hrejects, if_pos]
          rw [Bool.or_eq_true]
          exact hkept.imp_right hpod
      · cases hrest
    rw [hrest']
    trivial
  · rw [hdelete, Action.leaves] at hafter
    split at hafter
    · next hrejected =>
        rcases claimTurnDown_cases s' key c' with hrest' | hdelete'
        · rw [hrest']
          trivial
        · rw [hdelete']
          exact .inl hrejected
    · cases hafter

end Passes

end Shard

end TabletFleet
