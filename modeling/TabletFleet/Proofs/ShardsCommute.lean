import TabletFleet.Proofs.Pass.Frame
import TabletFleet.Proofs.Pass.Selection
import TabletFleet.Proofs.Pass.TwoRuns

set_option autoImplicit false

/-! # Passes over different shards commute

Two shards share a store, and the passes over them may be made in either order: if they are told apart by
namespace or labels, and desire and find objects at different keys, it makes no difference to the store
which comes first, nor to what they report (`Shard.passes_commute`). For the one pass leaves everything
outside its footprint, and with it all that the other one finds and looks at. -/

namespace TabletFleet

/-! ## Outside a footprint -/

namespace Shard

section Outside

variable {shard : Shard} {w : MemoryStore} {key : ObjectKey}

theorem pod_outside (topology : Topology) (config : PassConfig) (now : Timestamp)
    (h : key ∉ shard.footprint w) :
    (shard.afterPass topology config now w).fetch? Pod key = w.fetch? Pod key := by
  refine pod_other topology config (fun hkey => h (mem_footprint.2 (.inl hkey))) ?_
  exact Option.eq_none_iff_forall_ne_some.2 fun p hp => h (mem_footprint_of_livePods hp)

theorem claim_outside (topology : Topology) (config : PassConfig) (now : Timestamp)
    (h : key ∉ shard.footprint w) :
    (shard.afterPass topology config now w).fetch? Claim key = w.fetch? Claim key := by
  rw [fetch?_claim_afterPass]
  refine claim_other (fun hkey => h (mem_footprint.2 (.inl (shard.claimKeys_subset hkey)))) ?_
  exact Option.eq_none_iff_forall_ne_some.2 fun c hc => h (mem_footprint_of_liveClaims hc)

end Outside

end Shard

/-- A kind of object that passes look after: each changes its own objects only, within its footprint,
and leaves the uids of those that remain. -/
class PassKind (K : Type) [Stored K] : Prop extends Compared K where
  ownChange : ∀ (shard : Shard) (topology : Topology) (config : PassConfig) (now : Timestamp)
    (w : MemoryStore) (key : ObjectKey), shard.OwnChange (w.fetch? K key)
      ((shard.afterPass topology config now w).fetch? K key)
  outside : ∀ (shard : Shard) (topology : Topology) (config : PassConfig) (now : Timestamp)
    (w : MemoryStore) (key : ObjectKey), key ∉ shard.footprint w →
      (shard.afterPass topology config now w).fetch? K key = w.fetch? K key
  uid : ∀ (shard : Shard) (topology : Topology) (config : PassConfig) (now : Timestamp)
    (w : MemoryStore) (key : ObjectKey) (object object' : K), w.fetch? K key = some object →
      (shard.afterPass topology config now w).fetch? K key = some object' →
        (ManagedObject.metadata object').uid = (ManagedObject.metadata object).uid

instance : PassKind Pod where
  ownChange _ topology config now w key := Shard.pod_ownChange topology config now w key
  outside _ topology config now _ _ := Shard.pod_outside topology config now
  uid _ _ _ _ _ _ _ _ hp hp' := (Shard.pod_kept hp hp').1.uid

instance : PassKind Claim where
  ownChange _ topology config now w key := Shard.claim_ownChange topology config now w key
  outside _ topology config now _ _ := Shard.claim_outside topology config now
  uid _ _ _ _ _ _ _ _ hc hc' := (Shard.claim_kept hc hc').1.uid

namespace Shard

/-! ## Shards told apart -/

/-- The shards are in different namespaces, or their objects are found by different labels. -/
def Differs (a b : Shard) : Prop := a.ns ≠ b.ns ∨ a.labels ≠ b.labels

section Differs

variable {a b : Shard}

theorem Differs.symm (h : a.Differs b) : b.Differs a := h.imp Ne.symm Ne.symm

theorem isSome_get?_labels (a b : Shard) (k : String) :
    (a.labels.get? k).isSome = true ↔ (b.labels.get? k).isSome = true := by
  rw [labels, labels, OrdMap.isSome_get?_ofList, OrdMap.isSome_get?_ofList]
  rfl

/-- No object is found by two shards that differ. -/
theorem Differs.isListed (h : a.Differs b) {m : ObjectMeta} (ha : m.isListed a.ns a.labels = true) :
    m.isListed b.ns b.labels = false := by
  rw [Bool.eq_false_iff]
  intro hb
  rw [ObjectMeta.isListed, Bool.and_eq_true, beq_iff_eq] at ha hb
  refine h.elim (fun hns => hns (Option.some.inj (ha.1.symm.trans hb.1))) fun hlabels => hlabels ?_
  -- the shards are found by the same keys, and the object has the values of both
  have hagree : ∀ k x y, a.labels.get? k = some x → b.labels.get? k = some y → x = y :=
    fun k x y hx hy => Option.some.inj
      ((Selector.accepts_iff.1 ha.2 k x hx).symm.trans (Selector.accepts_iff.1 hb.2 k y hy))
  refine OrdMap.ext_get? fun k => ?_
  have hsome := isSome_get?_labels a b k
  cases hx : a.labels.get? k with
  | none =>
      rw [hx, Option.isSome_none] at hsome
      exact (Option.not_isSome_iff_eq_none.1 fun hy => Bool.noConfusion (hsome.2 hy)).symm
  | some x =>
      rw [hx, Option.isSome_some] at hsome
      obtain ⟨y, hy⟩ := Option.isSome_iff_exists.1 (hsome.1 rfl)
      rw [hy, hagree k x y hx hy]

/-- What becomes of a shard's own objects does not show in what another one finds. -/
theorem OwnChange.filter_eq {K : Type} [ManagedObject K] {before after : Option K}
    (hown : a.OwnChange before after) (h : a.Differs b) :
    (after.filter fun object => (ManagedObject.metadata object).isListed b.ns b.labels)
      = before.filter fun object => (ManagedObject.metadata object).isListed b.ns b.labels := by
  rcases hown with rfl | ⟨hbefore, hafter⟩
  · rfl
  · have hnone : ∀ found : Option K, (∀ object, found = some object →
        (ManagedObject.metadata object).isListed a.ns a.labels = true) →
        (found.filter fun object => (ManagedObject.metadata object).isListed b.ns b.labels)
          = none := by
      intro found hlisted
      rw [Option.filter_eq_none_iff]
      intro object hobject
      rw [h.isListed (hlisted object hobject)]
      exact Bool.false_ne_true
    rw [hnone before hbefore, hnone after hafter]

end Differs

/-- The shards differ, and desire and find nothing at the same key. -/
structure Apart (a b : Shard) (w : MemoryStore) : Prop where
  differs : a.Differs b
  disjoint : ∀ key ∈ a.footprint w, key ∉ b.footprint w

theorem Apart.symm {a b : Shard} {w : MemoryStore} (h : a.Apart b w) : b.Apart a w where
  differs := h.differs.symm
  disjoint key hb ha := h.disjoint key ha hb

/-! ## One pass after another -/

/-- The store after passes over two shards, one after the other. -/
def afterBoth (first second : Shard) (topology : Topology) (config : PassConfig)
    (nowFirst nowSecond : Timestamp) (w : MemoryStore) : MemoryStore :=
  second.afterPass topology config nowSecond (first.afterPass topology config nowFirst w)

section Both

variable {a b : Shard} (topology : Topology) (config : PassConfig) (nowA nowB : Timestamp)
variable {w : MemoryStore}

theorem found_afterPass {K : Type} [Stored K] [PassKind K] (h : a.Differs b) (key : ObjectKey) :
    b.found K (a.afterPass topology config nowA w) key = b.found K w key :=
  (PassKind.ownChange a topology config nowA w key).filter_eq h

theorem mem_footprint_afterPass (h : a.Differs b) (key : ObjectKey) :
    key ∈ b.footprint (a.afterPass topology config nowA w) ↔ key ∈ b.footprint w := by
  rw [mem_footprint, mem_footprint, found_afterPass topology config nowA h,
    found_afterPass topology config nowA h]

/-- A pass comes to the same after one over another shard as before it. -/
theorem pass_after_other (h : a.Apart b w) :
    (b.reconcileAt topology config nowB (a.afterPass topology config nowA w)).1
        = (b.reconcileAt topology config nowB w).1 ∧
      (b.afterPass topology config nowB w).AlikeOn (b.footprint w)
        (a.afterBoth b topology config nowA nowB w) := by
  have hkept : ∀ (K : Type) [Stored K] [PassKind K], ∀ key ∈ b.footprint w,
      (a.afterPass topology config nowA w).fetch? K key = w.fetch? K key := fun K _ _ key hb =>
    PassKind.outside a topology config nowA w key fun ha => h.disjoint key ha hb
  have hstored : w.AlikeOn (b.footprint w) (a.afterPass topology config nowA w) :=
    ⟨a.rejections_afterPass topology config nowA w,
      fun key hb => by rw [hkept Pod key hb], fun key hb => by rw [hkept Claim key hb]⟩
  exact pass_alike topology config nowB hstored (found_afterPass topology config nowA h.differs)
    (found_afterPass topology config nowA h.differs)

variable {K : Type} [Stored K] [PassKind K] {key : ObjectKey}

/-- The second pass leaves what is outside its footprint, which is what it was before the first one. -/
theorem fetch?_afterBoth_outside (h : a.Differs b) (hkey : key ∉ b.footprint w) :
    (a.afterBoth b topology config nowA nowB w).fetch? K key
      = (a.afterPass topology config nowA w).fetch? K key :=
  PassKind.outside b topology config nowB _ key fun hmem =>
    hkey ((mem_footprint_afterPass topology config nowA h key).1 hmem)

/-- At a key of the second shard the two passes leave what the second one would leave alone. -/
theorem unstamped_afterBoth (h : a.Apart b w) (hkey : key ∈ b.footprint w) :
    ((a.afterBoth b topology config nowA nowB w).fetch? K key).map unstamped
      = ((b.afterPass topology config nowB w).fetch? K key).map unstamped :=
  (Compared.fetched (pass_after_other topology config nowA nowB h).2 key hkey).symm

theorem uid_afterBoth (h : a.Apart b w) {object object' : K} (hobject : w.fetch? K key = some object)
    (hobject' : (a.afterBoth b topology config nowA nowB w).fetch? K key = some object') :
    (ManagedObject.metadata object').uid = (ManagedObject.metadata object).uid := by
  by_cases hkey : key ∈ b.footprint w
  · have hbetween : (a.afterPass topology config nowA w).fetch? K key = some object := by
      rw [PassKind.outside a topology config nowA w key fun ha => h.disjoint key ha hkey, hobject]
    exact PassKind.uid b topology config nowB _ key _ _ hbetween hobject'
  · rw [fetch?_afterBoth_outside topology config nowA nowB h.differs hkey] at hobject'
    exact PassKind.uid a topology config nowA w key _ _ hobject hobject'

end Both

/-! ## Either order -/

/-- The same objects are stored, but for versions, and for the uids of those that were not there at
first. -/
structure SameStored (K : Type) [Stored K] (first s s' : MemoryStore) : Prop where
  alike : ∀ key, (s.fetch? K key).map unstamped = (s'.fetch? K key).map unstamped
  remaining : ∀ key, (first.fetch? K key).isSome = true →
    (s.fetch? K key).map unversioned = (s'.fetch? K key).map unversioned

section Orders

variable {a b : Shard} (topology : Topology) (config : PassConfig) (nowA nowB : Timestamp)
variable {w : MemoryStore} {K : Type} [Stored K] [PassKind K]

theorem unstamped_either (h : a.Apart b w) (key : ObjectKey) :
    ((a.afterBoth b topology config nowA nowB w).fetch? K key).map unstamped
      = ((b.afterBoth a topology config nowB nowA w).fetch? K key).map unstamped := by
  by_cases hb : key ∈ b.footprint w
  · have ha : key ∉ a.footprint w := fun ha => h.disjoint key ha hb
    rw [unstamped_afterBoth topology config nowA nowB h hb,
      fetch?_afterBoth_outside topology config nowB nowA h.differs.symm ha]
  · rw [fetch?_afterBoth_outside topology config nowA nowB h.differs hb]
    by_cases ha : key ∈ a.footprint w
    · rw [unstamped_afterBoth topology config nowB nowA h.symm ha]
    · rw [fetch?_afterBoth_outside topology config nowB nowA h.differs.symm ha,
        PassKind.outside a topology config nowA w key ha,
        PassKind.outside b topology config nowB w key hb]

theorem sameStored (h : a.Apart b w) :
    SameStored K w (a.afterBoth b topology config nowA nowB w)
      (b.afterBoth a topology config nowB nowA w) where
  alike := unstamped_either topology config nowA nowB h
  remaining key hkey := by
    obtain ⟨object, hobject⟩ := Option.isSome_iff_exists.1 hkey
    refine map_unversioned_eq_of_uid (unstamped_either topology config nowA nowB h key) ?_
    intro x y hx hy
    rw [uid_afterBoth topology config nowA nowB h hobject hx,
      uid_afterBoth topology config nowB nowA h.symm hobject hy]

end Orders

/-- *Commutation.* If two shards are told apart by namespace or labels, and desire and find nothing at the
same key, then it does not matter which of them a pass is made over first: the same is stored in the end,
but for versions and new uids, and each pass answers the same. -/
theorem passes_commute (a b : Shard) (topology : Topology) (config : PassConfig)
    (nowA nowB : Timestamp) (w : MemoryStore) (h : a.Apart b w) :
    let ab := a.afterBoth b topology config nowA nowB w
    let ba := b.afterBoth a topology config nowB nowA w
    SameStored Pod w ab ba ∧ SameStored Claim w ab ba ∧ ab.configMaps = ba.configMaps ∧
      ab.rejections = ba.rejections ∧
      (a.reconcileAt topology config nowA w).1
        = (a.reconcileAt topology config nowA (b.afterPass topology config nowB w)).1 ∧
      (b.reconcileAt topology config nowB (a.afterPass topology config nowA w)).1
        = (b.reconcileAt topology config nowB w).1 := by
  refine ⟨sameStored topology config nowA nowB h, sameStored topology config nowA nowB h, ?_, ?_,
    (pass_after_other topology config nowB nowA h.symm).1.symm,
    (pass_after_other topology config nowA nowB h).1⟩
  · rw [afterBoth, afterBoth, configMaps_afterPass, configMaps_afterPass, configMaps_afterPass,
      configMaps_afterPass]
  · rw [afterBoth, afterBoth, rejections_afterPass, rejections_afterPass, rejections_afterPass,
      rejections_afterPass]

/-- A small shard of another keyspace in the same namespace. -/
def sampleOther : Shard where
  metadata := {
    ns := some "test"
    labels := some (.ofList [(LabelKey.cluster, "c"), (LabelKey.keyspace, "commerce")])
    generation := some 1 }
  spec := { name := "-", tabletPools := [{ cell := "zone1", type := .replica, replicas := 1 }] }

/-- The stored pod after a pass over its shard, which has no pods any more, and one over the other shard, in
either order. -/
def sampleThenOther : Option Pod :=
  ((sample 0).afterBoth sampleOther .sample {} .sample .sample sampleStored).fetch? Pod
    (sampleKey sampleFirst)
def otherThenSample : Option Pod :=
  (sampleOther.afterBoth (sample 0) .sample {} .sample .sample sampleStored).fetch? Pod
    (sampleKey sampleFirst)

/-- The pod, which is no longer wanted and starts to drain, has a higher version if it was written second,
and is the same otherwise. -/
theorem sample_pod_either_order :
    sampleThenOther.map (·.metadata.resourceVersion) = some (some "2") ∧
      otherThenSample.map (·.metadata.resourceVersion) = some (some "3") ∧
      sampleThenOther.map unversioned = otherThenSample.map unversioned := by
  have hapart : (sample 0).Apart sampleOther sampleStored :=
    ⟨.inr (by decide +kernel), by decide +kernel⟩
  obtain ⟨hpods, -⟩ := passes_commute (sample 0) sampleOther .sample {} .sample .sample sampleStored
    hapart
  exact ⟨by decide +kernel, by decide +kernel, hpods.remaining _ (by decide +kernel)⟩

end Shard

end TabletFleet
