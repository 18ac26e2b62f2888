import TabletFleet.Proofs.DataVolumes
import TabletFleet.Proofs.Pass.Selection
import TabletFleet.Proofs.Tablet.Alias

set_option autoImplicit false

/-! # The identity that tablets' objects tell

The labels of a tablet's objects tell its shard and its alias, whatever labels the user asks for and
whatever the live object carried before (`Shard.Identifies`). Its objects are named by the same alias. Both
stay so while passes for any shards go over the objects and others change them without touching labels
(`Operated`), so that whatever is found to be unwanted later on is known by the alias it is named by. -/

namespace TabletFleet

open ManagedObject (key? metadata)

namespace Shard

/-- The labels tell that the object is one of the shard's, and which tablet's. -/
structure Identifies (shard : Shard) (tablet : TabletAlias) (m : ObjectMeta) : Prop where
  selected : Selector.accepts shard.labels m.labels = true
  tablet : TabletAlias.ofLabels? m.labels = some tablet

/-! ## Labels of a tablet's objects -/

section Labels

variable {shard : Shard} {t : TabletSpec}

theorem get?_cell_of_tablet (ht : t ∈ shard.tablets) :
    t.labels.get? LabelKey.cell = some t.identity.cell := by
  obtain ⟨pool, -, i, -, rfl⟩ := mem_tablets_iff.1 ht
  refine OrdMap.get?_insertMany_eq_some.2 (.inl ⟨[], _, rfl, ?_⟩)
  simp only [List.map_cons, List.map_nil]
  decide

theorem get?_tabletUid_of_tablet (ht : t ∈ shard.tablets) :
    t.labels.get? LabelKey.tabletUid = some (toString t.identity.uid.toNat) := by
  obtain ⟨pool, -, i, -, rfl⟩ := mem_tablets_iff.1 ht
  refine OrdMap.get?_insertMany_eq_some.2 (.inl ⟨[_], _, rfl, ?_⟩)
  simp only [List.map_cons, List.map_nil]
  decide

/-- Labels that hold all of a tablet's own tell its shard and its alias. -/
theorem identifies_of_accepts (ht : t ∈ shard.tablets) {m : ObjectMeta}
    (h : Selector.accepts t.labels m.labels = true) : shard.Identifies t.identity m where
  selected := accepts_of_tablet ht h
  tablet := by
    have hcell := Selector.accepts_iff.1 h _ _ (get?_cell_of_tablet ht)
    have huid := Selector.accepts_iff.1 h _ _ (get?_tabletUid_of_tablet ht)
    exact TabletAlias.ofLabels?_eq_some_iff.2 ⟨hcell, _, huid, Numeral.spells_toString _⟩

theorem Identifies.congr {tablet : TabletAlias} {m m' : ObjectMeta} (h : shard.Identifies tablet m)
    (hlabels : m'.labels = m.labels) : shard.Identifies tablet m' where
  selected := hlabels ▸ h.selected
  tablet := hlabels ▸ h.tablet

theorem identifies_newPod (ht : t ∈ shard.tablets) (key : ObjectKey) :
    shard.Identifies t.identity (t.newPod key).metadata :=
  identifies_of_accepts ht t.accepts_objectLabels

theorem identifies_mergeLabels (ht : t ∈ shard.tablets) (m : ObjectMeta) :
    shard.Identifies t.identity (m.mergeLabels t.objectLabels) :=
  identifies_of_accepts ht (t.accepts_merge _)

theorem identifies_updateInPlace (ht : t ∈ shard.tablets) (p : Pod) :
    shard.Identifies t.identity (p.updateInPlace t).metadata :=
  (identifies_mergeLabels ht p.metadata).congr rfl

theorem identifies_update (ht : t ∈ shard.tablets) (p : Pod) :
    shard.Identifies t.identity (p.update t).metadata := by
  refine (identifies_updateInPlace ht p).congr ?_
  unfold Pod.update
  dsimp only
  split <;> rfl

theorem identifies_newClaim (ht : t ∈ shard.tablets) {key : ObjectKey} {c : Claim}
    (hnew : t.newClaim? key = some c) : shard.Identifies t.identity c.metadata := by
  obtain ⟨template, -, rfl⟩ := Option.map_eq_some_iff.1 hnew
  exact identifies_of_accepts ht t.accepts_objectLabels

theorem identifies_claimUpdate (ht : t ∈ shard.tablets) (c : Claim) :
    shard.Identifies t.identity (c.updateInPlace t).metadata := by
  refine (identifies_mergeLabels ht c.metadata).congr ?_
  unfold Claim.updateInPlace
  dsimp only
  split <;> rfl

theorem get?_cluster_labels (shard : Shard) :
    shard.labels.get? LabelKey.cluster = some shard.clusterName := by
  refine OrdMap.get?_insertMany_eq_some.2 (.inl ⟨[_], _, rfl, ?_⟩)
  simp only [List.map_cons, List.map_nil]
  decide

/-- Shards that find an object by the same labels are of the same cluster. -/
theorem clusterName_eq_of_selected {shard shard' : Shard} {labels : Option StringMap}
    (h : Selector.accepts shard.labels labels = true)
    (h' : Selector.accepts shard'.labels labels = true) : shard.clusterName = shard'.clusterName := by
  have hcluster := Selector.accepts_iff.1 h _ _ shard.get?_cluster_labels
  have hcluster' := Selector.accepts_iff.1 h' _ _ shard'.get?_cluster_labels
  exact Option.some.inj (hcluster.symm.trans hcluster')

end Labels

end Shard

/-! ## Names of a tablet's objects -/

section Names

variable {shard : Shard} {t : TabletSpec}

theorem Shard.key_of_mem_tablets (ht : t ∈ shard.tablets) :
    t.key shard.ns = ⟨shard.ns, t.identity.podName shard.clusterName⟩ := by
  rw [TabletSpec.key, name_of_mem_tablets ht]

/-- A pod is given the tablet's specification unless it records that it has it. -/
theorem Pod.spec_update {p : Pod}
    (h : (p.updateInPlace t).metadata.annotation? AnnotationKey.specHash ≠ some t.podSpec.hash) :
    (p.update t).spec = some { t.podSpec with nodeName := p.spec.bind (·.nodeName) } := by
  unfold update
  dsimp only
  rw [if_neg h]
  rfl

end Names

/-! ## Turning down -/

/-- Where a pass looks the primary of its shard up. -/
def PassInput.primaryLookup {σ : Type} (input : PassInput σ) : PrimaryLookup (PassState σ) where
  topology := input.topology.lift PassState.onWorld
  shard := ⟨input.shard.keyspaceName, input.shard.spec.name⟩
  timeout := input.config.lookupTimeout

/-- Whatever pass finds the pod to be unwanted decides about it under the given alias. -/
def Pod.CheckedAs (p : Pod) (tablet : TabletAlias) : Prop :=
  ∀ {σ : Type} (input : PassInput σ) (key : ObjectKey) (s : PassState σ),
    (podStrategy input).prepareForTurndown key p s =
      Turndown.pod input.primaryLookup (some tablet) s.status.tablets p s

theorem Shard.Identifies.checkedAs {shard : Shard} {tablet : TabletAlias} {p : Pod}
    (h : shard.Identifies tablet p.metadata) : p.CheckedAs tablet := by
  intro σ input key s
  rw [← h.tablet]
  rfl

/-! ## Passes -/

namespace MemoryStore

/-- Every stored object belongs to a tablet that some shard has asked for: it is at the tablet's key, and
its labels tell the shard and the tablet. -/
def HoldsTablets (K : Type) [Stored K] (w : MemoryStore) : Prop :=
  ∀ key object, w.fetch? K key = some object →
    ∃ (shard : Shard) (t : TabletSpec), t ∈ shard.tablets ∧ t.key shard.ns = key ∧
      shard.Identifies t.identity (metadata object)

/-- The second store holds no other objects than the first, with the labels that they have there. -/
def KeepsLabels (K : Type) [Stored K] (w w' : MemoryStore) : Prop :=
  ∀ key object', w'.fetch? K key = some object' → ∃ object, w.fetch? K key = some object ∧
    (metadata object').labels = (metadata object).labels

section Steps

variable {w : MemoryStore}

theorem HoldsTablets.keepsLabels {K : Type} [Stored K] {w' : MemoryStore} (h : w.HoldsTablets K)
    (hkept : w.KeepsLabels K w') : w'.HoldsTablets K := by
  intro key object' hobject'
  obtain ⟨object, hobject, hlabels⟩ := hkept key object' hobject'
  obtain ⟨shard, t, ht, hkey, hidentifies⟩ := h key object hobject
  exact ⟨shard, t, ht, hkey, hidentifies.congr hlabels⟩

theorem HoldsTablets.podsAfterPass (h : w.HoldsTablets Pod) (shard : Shard) (topology : Topology)
    (config : PassConfig) (now : Timestamp) :
    (shard.afterPass topology config now w).HoldsTablets Pod := by
  intro key p' hp'
  cases Shard.podOrigin hp' with
  | kept _ before => exact h key p' before
  | created t n desired =>
      obtain ⟨ht, hkey⟩ := Shard.of_byKey desired
      exact ⟨shard, t, ht, hkey, (Shard.identifies_newPod ht key).congr rfl⟩
  | updated t p f n desired before markers =>
      obtain ⟨ht, hkey⟩ := Shard.of_byKey desired
      obtain ⟨changes, hnext⟩ := shard.marked_podNext t p markers
      rw [hnext]
      exact ⟨shard, t, ht, hkey, (Shard.identifies_mergeLabels ht p.metadata).congr rfl⟩
  | drained p n unwanted before =>
      obtain ⟨asking, t, ht, hkey, hidentifies⟩ := h key p before
      exact ⟨asking, t, ht, hkey, hidentifies.congr (p.metadata.labels_startDrain _)⟩

theorem HoldsTablets.claimsAfterPass (h : w.HoldsTablets Claim) (shard : Shard) (topology : Topology)
    (config : PassConfig) (now : Timestamp) :
    (shard.afterPass topology config now w).HoldsTablets Claim := by
  intro key c' hc'
  cases Shard.claimOrigin hc' with
  | kept _ before => exact h key c' before
  | created t c n desired tablet new =>
      obtain ⟨ht, hkey⟩ := Shard.of_byKey tablet
      exact ⟨shard, t, ht, hkey, (Shard.identifies_newClaim ht new).congr rfl⟩
  | updated t c n tablet before =>
      obtain ⟨ht, hkey⟩ := Shard.of_byKey tablet
      exact ⟨shard, t, ht, hkey, (Shard.identifies_claimUpdate ht c).congr rfl⟩

/-- What a shard finds among objects of tablets is named by the alias that it tells. -/
theorem HoldsTablets.named {K : Type} [Stored K] (h : w.HoldsTablets K) {shard : Shard}
    {key : ObjectKey} {object : K} (hobject : w.fetch? K key = some object)
    (hlisted : (metadata object).isListed shard.ns shard.labels = true) :
    ∃ (asking : Shard) (t : TabletSpec), t ∈ asking.tablets ∧
      key = ⟨shard.ns, t.identity.podName shard.clusterName⟩ ∧
      shard.Identifies t.identity (metadata object) := by
  obtain ⟨hns, hselected⟩ := (isListed_iff ((Stored.table w).keyed hobject)).1 hlisted
  obtain ⟨asking, t, ht, rfl, hidentifies⟩ := h key object hobject
  have hasking : asking.ns = shard.ns := hns
  refine ⟨asking, t, ht, ?_, hselected, hidentifies.tablet⟩
  rw [Shard.key_of_mem_tablets ht, hasking,
    Shard.clusterName_eq_of_selected hidentifies.selected hselected]

end Steps

/-- The stores that come about from the empty one by passes for any shards, while others take objects away
and change them, but bring none in and leave labels as they are. -/
inductive Operated : MemoryStore → Prop where
  | empty (newUid : Nat → String) : Operated (.empty newUid)
  | pass (w : MemoryStore) (shard : Shard) (topology : Topology) (config : PassConfig)
      (now : Timestamp) (before : Operated w) : Operated (shard.reconcileAt topology config now w).2
  | outside (w w' : MemoryStore) (before : Operated w) (pods : w.KeepsLabels Pod w')
      (claims : w.KeepsLabels Claim w') : Operated w'

theorem Operated.holdsTablets {w : MemoryStore} (h : Operated w) :
    w.HoldsTablets Pod ∧ w.HoldsTablets Claim := by
  induction h with
  | empty =>
      constructor
      · intro key p hp
        cases hp
      · intro key c hc
        cases hc
  | pass w shard topology config now _ ih =>
      exact ⟨ih.1.podsAfterPass shard topology config now,
        ih.2.claimsAfterPass shard topology config now⟩
  | outside w w' _ pods claims ih => exact ⟨ih.1.keepsLabels pods, ih.2.keepsLabels claims⟩

end MemoryStore

/-! ## The identity survives -/

namespace Shard

/-- *Tablet identity survives.* Whatever labels the user asks for and whatever the live object carries, the
labels of every object that is made or updated for a tablet select the shard and tell the tablet's alias,
under which its pod is decided about if it is unwanted later; and that alias gives the name of the claim
that the tablet's pod mounts and of the key at which a pass keeps the tablet's objects. So in every store
that comes about by passes, what a shard finds is named by the alias of a tablet that was asked for, its
labels tell that alias, and a pod is decided about under it. -/
theorem tablet_identity_survives :
    (∀ (shard : Shard) (t : TabletSpec), t ∈ shard.tablets →
      ∀ (key : ObjectKey) (p : Pod) (c : Claim),
      let name := t.identity.podName shard.clusterName
      (∀ p' ∈ [t.newPod key, p.updateInPlace t, p.update t],
        shard.Identifies t.identity p'.metadata ∧ p'.CheckedAs t.identity) ∧
      (∀ c' ∈ c.updateInPlace t :: (t.newClaim? key).toList,
        shard.Identifies t.identity c'.metadata) ∧
      t.name = name ∧
      (∀ claimName, (t.newPod key).Mounts claimName ↔
        t.claimTemplate.isSome = true ∧ claimName = name) ∧
      ((p.updateInPlace t).metadata.annotation? AnnotationKey.specHash ≠ some t.podSpec.hash →
        ∀ claimName, (p.update t).Mounts claimName ↔
          t.claimTemplate.isSome = true ∧ claimName = name) ∧
      ∀ {σ : Type} (input : PassInput σ), input.shard = shard →
        ⟨shard.ns, name⟩ ∈ input.podSet.keys ∧
        (t.claimTemplate.isSome = true → ⟨shard.ns, name⟩ ∈ input.claimSet.keys) ∧
        ∀ w key', (input.start w).tablets.get? key' = some t → key' = ⟨shard.ns, name⟩) ∧
    ∀ w, MemoryStore.Operated w → ∀ (shard : Shard) (key : ObjectKey),
      (∀ p, w.fetch? Pod key = some p → p.metadata.isListed shard.ns shard.labels = true →
        ∃ (asking : Shard) (t : TabletSpec), t ∈ asking.tablets ∧
          key = ⟨shard.ns, t.identity.podName shard.clusterName⟩ ∧
          shard.Identifies t.identity p.metadata ∧ p.CheckedAs t.identity) ∧
      ∀ c, w.fetch? Claim key = some c → c.metadata.isListed shard.ns shard.labels = true →
        ∃ (asking : Shard) (t : TabletSpec), t ∈ asking.tablets ∧
          key = ⟨shard.ns, t.identity.podName shard.clusterName⟩ ∧
          shard.Identifies t.identity c.metadata := by
  constructor
  · intro shard t ht key p c name
    have hname : t.name = name := name_of_mem_tablets ht
    have hkey : t.key shard.ns = ⟨shard.ns, name⟩ := key_of_mem_tablets ht
    refine ⟨?_, ?_, hname, ?_, ?_, ?_⟩
    · intro p' hp'
      have hidentifies : shard.Identifies t.identity p'.metadata := by
        simp only [List.mem_cons, List.not_mem_nil, or_false] at hp'
        rcases hp' with rfl | rfl | rfl
        · exact identifies_newPod ht key
        · exact identifies_updateInPlace ht p
        · exact identifies_update ht p
      exact ⟨hidentifies, hidentifies.checkedAs⟩
    · intro c' hc'
      rcases List.mem_cons.1 hc' with rfl | hnew
      · exact identifies_claimUpdate ht c
      · exact identifies_newClaim ht (Option.mem_toList.1 hnew)
    · intro claimName
      have hspec : (t.newPod key).spec = some { t.podSpec with nodeName := none } := rfl
      rw [← hname]
      exact mounts_iff_of_spec hspec
    · intro hhash claimName
      rw [← hname]
      exact mounts_iff_of_spec (Pod.spec_update hhash)
    · rintro σ input rfl
      rw [← hkey]
      refine ⟨List.mem_map_of_mem ht, fun htemplate => ?_, fun w key' hkey' => ?_⟩
      · exact mem_claimKeys_iff.2 ⟨t, ht, htemplate, rfl⟩
      · rw [PassInput.tablets_start] at hkey'
        exact (of_byKey hkey').2.symm
  · intro w hw shard key
    obtain ⟨hpods, hclaims⟩ := hw.holdsTablets
    refine ⟨fun p hp hlisted => ?_, fun c hc hlisted => hclaims.named hc hlisted⟩
    obtain ⟨asking, t, ht, hkey, hidentifies⟩ := hpods.named hp hlisted
    exact ⟨asking, t, ht, hkey, hidentifies, hidentifies.checkedAs⟩

/-- A pool of one tablet, whose user asks for labels that tell another tablet. -/
def sampleRelabelingPool : TabletPool where
  cell := "zone1"
  type := .replica
  replicas := 1
  extraLabels := .ofList [
    (LabelKey.cluster, "other"), (LabelKey.cell, "zone2"), (LabelKey.tabletUid, "7")]

def sampleRelabeling : Shard :=
  { sample 1 with spec := { (sample 1).spec with tabletPools := [sampleRelabelingPool] } }

def sampleRelabeled : TabletSpec :=
  sampleRelabeling.tablet sampleRelabeling.labels sampleRelabelingPool 1

theorem sample_relabeled_keeps_its_identity :
    TabletAlias.ofLabels? (some sampleRelabeled.extraLabels) = some ⟨"zone2", 7⟩ ∧
      sampleRelabeling.Identifies sampleFirst
        (sampleRelabeled.newPod (sampleKey sampleFirst)).metadata := by
  have ht : sampleRelabeled ∈ sampleRelabeling.tablets :=
    mem_tablets_iff.2 ⟨sampleRelabelingPool, List.mem_singleton_self _, 0, by decide, rfl⟩
  have hidentity : sampleRelabeled.identity = sampleFirst := by decide +kernel
  obtain ⟨hpods, -⟩ := tablet_identity_survives.1 _ _ ht (sampleKey sampleFirst) {} {}
  exact ⟨by decide +kernel, hidentity ▸ (hpods _ List.mem_cons_self).1⟩

end Shard

end TabletFleet
