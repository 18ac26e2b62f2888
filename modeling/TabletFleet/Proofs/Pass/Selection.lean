import TabletFleet.Proofs.Pass.Outcome
import TabletFleet.Proofs.Pass.Upkeep

set_option autoImplicit false

/-! # What a shard selects

The objects of a shard are found by their namespace and by the labels that all of them carry. A pass
changes what stands at a key only within these objects: what was there is one of them, and so is what
comes to be there (`Shard.OwnChange`). No labels of a user's choice matter, because those that identify a
tablet win over them. -/

namespace TabletFleet

open ManagedObject (key?)

/-! ## Labels -/

theorem ObjectMeta.labels_startDrain (m : ObjectMeta) (reason : String) :
    (m.startDrain reason).labels = m.labels := by
  unfold startDrain
  split <;> rfl

namespace TabletSpec

/-- The labels that identify a tablet win over all that they are merged with. -/
theorem accepts_merge (t : TabletSpec) (labels : StringMap) :
    Selector.accepts t.labels (some (labels.merge t.objectLabels)) = true := by
  refine Selector.accepts_iff.2 fun k v h => ?_
  rw [Option.bind_some, OrdMap.get?_merge, objectLabels, OrdMap.get?_merge, h, Option.some_or,
    Option.some_or]

theorem accepts_objectLabels (t : TabletSpec) :
    Selector.accepts t.labels (some t.objectLabels) = true := by
  refine Selector.accepts_iff.2 fun k v h => ?_
  rw [Option.bind_some, objectLabels, OrdMap.get?_merge, h, Option.some_or]

end TabletSpec

namespace Shard

section Labels

variable {shard : Shard} {t : TabletSpec}

/-- The labels that a tablet has of its own leave those that its shard is found by. -/
theorem get?_labels_of_tablet (ht : t ∈ shard.tablets) {k v : String}
    (h : shard.labels.get? k = some v) : t.labels.get? k = some v := by
  obtain ⟨pool, -, i, -, rfl⟩ := mem_tablets_iff.1 ht
  refine (OrdMap.get?_insertMany_of_notMem ?_).trans h
  rcases OrdMap.get?_insertMany_cases h with hmem | hempty
  · simp only [List.mem_cons, List.not_mem_nil, or_false, Prod.mk.injEq] at hmem
    rcases hmem with ⟨rfl, -⟩ | ⟨rfl, -⟩ | ⟨rfl, -⟩ | ⟨rfl, -⟩ <;>
      simp only [List.map_cons, List.map_nil] <;> decide
  · rw [OrdMap.get?_empty] at hempty
    cases hempty

theorem accepts_of_tablet (ht : t ∈ shard.tablets) {labels : Option StringMap}
    (h : Selector.accepts t.labels labels = true) : Selector.accepts shard.labels labels = true :=
  Selector.accepts_iff.2 fun k v hk => Selector.accepts_iff.1 h k v (get?_labels_of_tablet ht hk)

theorem accepts_merge_objectLabels (ht : t ∈ shard.tablets) (labels : StringMap) :
    Selector.accepts shard.labels (some (labels.merge t.objectLabels)) = true :=
  accepts_of_tablet ht (t.accepts_merge labels)

theorem accepts_objectLabels (ht : t ∈ shard.tablets) :
    Selector.accepts shard.labels (some t.objectLabels) = true :=
  accepts_of_tablet ht t.accepts_objectLabels

theorem ns_of_byKey {key : ObjectKey} (ht : shard.byKey.get? key = some t) : key.ns = shard.ns :=
  congrArg ObjectKey.ns (of_byKey ht).2.symm

end Labels

/-! ## Changes at a key -/

/-- What stands at a key stays as it is, or it is the shard's before and after. -/
def OwnChange {K : Type} [ManagedObject K] (shard : Shard) (before after : Option K) : Prop :=
  after = before ∨
    (∀ object, before = some object →
      (ManagedObject.metadata object).isListed shard.ns shard.labels = true) ∧
    ∀ object, after = some object →
      (ManagedObject.metadata object).isListed shard.ns shard.labels = true

theorem isListed_of_labels {m m' : ObjectMeta} {ns : String} {selector : StringMap}
    (h : m.isListed ns selector = true) (hns : m'.ns = m.ns)
    (hlabels : Selector.accepts selector m'.labels = true) : m'.isListed ns selector = true := by
  rw [ObjectMeta.isListed, Bool.and_eq_true] at h ⊢
  exact ⟨hns ▸ h.1, hlabels⟩

section Changes

variable {shard : Shard} {topology : Topology} {config : PassConfig} {now : Timestamp}
variable {w : MemoryStore} {key : ObjectKey}

/-- A pod that is not found is left alone, even if it stands at the key of a desired one. -/
theorem pod_unfound (hfound : shard.found Pod w key = none)
    (hstored : (w.fetch? Pod key).isSome = true) :
    (shard.afterPass topology config now w).fetch? Pod key = w.fetch? Pod key := by
  have hlive := (shard.livePods_eq_found now w key).trans hfound
  by_cases hkey : key ∈ shard.keys
  · obtain ⟨t, ht⟩ := exists_byKey hkey
    obtain ⟨n, hafter⟩ := pod_desired now w topology config hkey
    rw [hafter, hlive, podAction, ht]
    have hidle : (Action.create (t.newPod key)).Idle (w.rejects · key.name) (w.fetch? Pod key) :=
      Or.inr hstored
    exact Action.leaves_of_idle hidle n
  · exact pod_other topology config hkey hlive

theorem claim_unfound (hfound : shard.found Claim w key = none)
    (hstored : (w.fetch? Claim key).isSome = true) :
    (shard.afterPass topology config now w).fetch? Claim key = w.fetch? Claim key := by
  have hlive := (shard.liveClaims_eq_found now w key).trans hfound
  rw [fetch?_claim_afterPass]
  by_cases hkey : key ∈ shard.claimKeys
  · obtain ⟨t, ht⟩ := exists_byKey (shard.claimKeys_subset hkey)
    obtain ⟨n, hafter⟩ := claim_desired now w hkey
    rw [hafter, hlive, claimAction, ht]
    have hidle : (ObjectSet.createAction (t.newClaim? key)).Idle (w.rejects · key.name)
        (w.fetch? Claim key) := by
      cases t.newClaim? key with
      | none => trivial
      | some c => exact Or.inr hstored
    exact Action.leaves_of_idle hidle n
  · exact claim_other hkey hlive

/-- The new pod of a desired tablet is found by the next pass, and so is every pod that was. -/
theorem isListed_of_podOrigin {rejectsCreate : Bool} {stored : Option Pod} {p' : Pod}
    (h : PodOrigin shard key rejectsCreate stored p')
    (hlisted : ∀ p, stored = some p → p.metadata.isListed shard.ns shard.labels = true) :
    p'.metadata.isListed shard.ns shard.labels = true := by
  cases h with
  | kept _ before => exact hlisted p' before
  | created t stamp desired =>
      have hnew : key? (storedAs stamp true (t.newPod key)) = some key := key?_storedAs stamp true _
      exact (isListed_iff hnew).2 ⟨ns_of_byKey desired, accepts_objectLabels (of_byKey desired).1⟩
  | updated t p f stamp desired before markers =>
      obtain ⟨changes, hnext⟩ := shard.marked_podNext t p markers
      rw [hnext]
      exact isListed_of_labels (hlisted p before) rfl
        (accepts_merge_objectLabels (of_byKey desired).1 _)
  | drained p stamp unwanted before =>
      have hold := hlisted p before
      have hns : (p.metadata.startDrain Turndown.drainReason).ns = p.metadata.ns := by
        unfold ObjectMeta.startDrain
        split <;> rfl
      rw [ObjectMeta.isListed, ← p.metadata.labels_startDrain Turndown.drainReason, ← hns] at hold
      exact hold

theorem isListed_of_claimOrigin {stored : Option Claim} {c' : Claim}
    (h : ClaimOrigin shard key stored c')
    (hlisted : ∀ c, stored = some c → c.metadata.isListed shard.ns shard.labels = true) :
    c'.metadata.isListed shard.ns shard.labels = true := by
  cases h with
  | kept _ before => exact hlisted c' before
  | created t c stamp desired tablet new =>
      have hnew : key? c = some key ∧ c.metadata.labels = some t.objectLabels := by
        obtain ⟨template, -, rfl⟩ := Option.map_eq_some_iff.1 new
        exact ⟨rfl, rfl⟩
      have haccepts := accepts_objectLabels (of_byKey tablet).1
      rw [← hnew.2] at haccepts
      exact (isListed_iff ((key?_storedAs stamp true c).trans hnew.1)).2 ⟨ns_of_byKey tablet, haccepts⟩
  | updated t c stamp tablet before =>
      rw [← Claim.kept, Claim.kept_eq]
      exact isListed_of_labels (hlisted c before) rfl
        (accepts_merge_objectLabels (of_byKey tablet).1 _)

/-- A change is a shard's own if what is not found is left alone, and what is found gives rise to what is
found again. -/
theorem ownChange_of_found {K : Type} [Stored K] {after : Option K}
    (hunfound : shard.found K w key = none → (w.fetch? K key).isSome = true →
      after = w.fetch? K key)
    (hlisted : (∀ object, w.fetch? K key = some object →
        (ManagedObject.metadata object).isListed shard.ns shard.labels = true) →
      ∀ object, after = some object →
        (ManagedObject.metadata object).isListed shard.ns shard.labels = true) :
    shard.OwnChange (w.fetch? K key) after := by
  by_cases hleft : shard.found K w key = none ∧ (w.fetch? K key).isSome = true
  · exact .inl (hunfound hleft.1 hleft.2)
  · -- what stands at the key, if anything does, is found
    have hbefore : ∀ object, w.fetch? K key = some object →
        (ManagedObject.metadata object).isListed shard.ns shard.labels = true := by
      intro object hobject
      refine Decidable.byContradiction fun hnot => hleft ⟨?_, by rw [hobject, Option.isSome_some]⟩
      rw [found, hobject, Option.filter_some]
      exact if_neg hnot
    exact .inr ⟨hbefore, hlisted hbefore⟩

theorem pod_ownChange (topology : Topology) (config : PassConfig) (now : Timestamp)
    (w : MemoryStore) (key : ObjectKey) : shard.OwnChange (w.fetch? Pod key)
      ((shard.afterPass topology config now w).fetch? Pod key) :=
  ownChange_of_found pod_unfound fun hlisted _ hp' => isListed_of_podOrigin (podOrigin hp') hlisted

theorem claim_ownChange (topology : Topology) (config : PassConfig) (now : Timestamp)
    (w : MemoryStore) (key : ObjectKey) : shard.OwnChange (w.fetch? Claim key)
      ((shard.afterPass topology config now w).fetch? Claim key) :=
  ownChange_of_found claim_unfound fun hlisted _ hc' =>
    isListed_of_claimOrigin (claimOrigin hc') hlisted

end Changes

end Shard

end TabletFleet
