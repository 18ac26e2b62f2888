import Mathlib.Data.List.Perm.Subperm
import TabletFleet.Proofs.AliasText
import TabletFleet.Proofs.FirstPass
import TabletFleet.Proofs.Tablet.Places

set_option autoImplicit false

/-! # Tablets that are kept apart

A pass keeps one pod for every alias, so of all the tablets that a shard asks for it runs those whose
aliases differ. An alias is made from the place of its tablet: the cell is kept, and all of the place is
hashed to a number of 32 bits. So two requested tablets come to one alias when two pools ask for the same
place, and when two places of one cell are hashed to the same number. In all other cases, and in no more,
every requested tablet is one of its own (`Shard.requested_apart_iff`). -/

namespace TabletFleet

/-! ## Counting distinct elements -/

section Distinct

variable {α : Type} [DecidableEq α]

theorem length_eraseDups_le (l : List α) : l.eraseDups.length ≤ l.length :=
  (List.subperm_of_subset (ObjectSet.nodup_eraseDups l) fun _ => List.mem_eraseDups.1).length_le

theorem perm_eraseDups_of_nodup {l : List α} (h : l.Nodup) : l.eraseDups.Perm l :=
  (List.perm_ext_iff_of_nodup (ObjectSet.nodup_eraseDups l) h).2 fun _ => List.mem_eraseDups

/-- A list has as many distinct elements as elements if and only if none is repeated. -/
theorem length_eraseDups_eq_iff {l : List α} : l.eraseDups.length = l.length ↔ l.Nodup := by
  constructor
  · intro hlength
    have hsub := List.subperm_of_subset (ObjectSet.nodup_eraseDups l) fun _ => List.mem_eraseDups.1
    exact (hsub.perm_of_length_le hlength.ge).nodup_iff.1 (ObjectSet.nodup_eraseDups l)
  · intro hnodup
    exact (perm_eraseDups_of_nodup hnodup).length_eq

end Distinct

/-! ## What keeps tablets apart -/

namespace Shard

/-- No two of the requested tablets come to the same alias: no place is asked for twice, and the numbers
of the places in a cell differ. -/
structure KeepsApart (s : Shard) : Prop where
  pools : s.spec.tabletPools.Pairwise fun p q =>
    0 < p.replicas → 0 < q.replicas → ¬(p.cell = q.cell ∧ p.type = q.type)
  numbers : ∀ p ∈ s.places, ∀ q ∈ s.places, p.cell = q.cell →
    (s.aliasAt p).uid = (s.aliasAt q).uid → p = q

instance (s : Shard) : Decidable s.KeepsApart :=
  decidable_of_iff (_ ∧ _) ⟨fun ⟨pools, numbers⟩ => ⟨pools, numbers⟩, fun h => ⟨h.pools, h.numbers⟩⟩

theorem nodup_places_iff {s : Shard} : s.places.Nodup ↔ s.spec.tabletPools.Pairwise fun p q =>
    0 < p.replicas → 0 < q.replicas → ¬(p.cell = q.cell ∧ p.type = q.type) := by
  rw [places, List.nodup_flatMap, and_iff_right fun pool _ => pool.nodup_places]
  exact List.Pairwise.iff fun p q => TabletPool.disjoint_places_iff

theorem aliasAt_eq_iff {s : Shard} {p q : TabletPlace} :
    s.aliasAt p = s.aliasAt q ↔ p.cell = q.cell ∧ (s.aliasAt p).uid = (s.aliasAt q).uid :=
  iff_of_eq (TabletAlias.mk.injEq ..)

theorem nodup_aliases_iff {s : Shard} : (s.places.map s.aliasAt).Nodup ↔ s.KeepsApart := by
  constructor
  · intro h
    have hplaces : s.places.Nodup := h.of_map
    refine ⟨nodup_places_iff.1 hplaces, fun p hp q hq hcell huid => ?_⟩
    exact (List.nodup_map_iff_inj_on hplaces).1 h p hp q hq (aliasAt_eq_iff.2 ⟨hcell, huid⟩)
  · rintro ⟨hpools, hnumbers⟩
    refine (List.nodup_map_iff_inj_on (nodup_places_iff.2 hpools)).2 fun p hp q hq heq => ?_
    obtain ⟨hcell, huid⟩ := aliasAt_eq_iff.1 heq
    exact hnumbers p hp q hq hcell huid

/-! ## Keys -/

/-- Keys repeat just when aliases do, because the objects of a tablet are named by its alias. -/
theorem nodup_keys_iff (s : Shard) (parentLabels : StringMap) :
    ((s.tabletsWith parentLabels).map (·.key s.ns)).Nodup ↔ s.KeepsApart := by
  have hkeys : (s.tabletsWith parentLabels).map (·.key s.ns) =
      ((s.tabletsWith parentLabels).map (·.identity)).map
        fun a => ⟨s.ns, a.podName s.clusterName⟩ := by
    rw [List.map_map]
    refine List.map_congr_left fun t ht => ?_
    rw [TabletSpec.key, name_eq ht]
    rfl
  have hinjective : Function.Injective fun a : TabletAlias =>
      (⟨s.ns, a.podName s.clusterName⟩ : ObjectKey) :=
    fun _ _ h => TabletAlias.podName_injective _ (congrArg ObjectKey.name h)
  rw [hkeys, List.nodup_map_iff hinjective, map_identity_tabletsWith, nodup_aliases_iff]

theorem length_keys (s : Shard) : s.keys.length = s.requested := by
  rw [keys, List.length_map, ← s.length_places, tablets, ← s.map_place_tabletsWith s.labels,
    List.length_map]

theorem length_distinct_keys_le (s : Shard) : s.keys.eraseDups.length ≤ s.requested :=
  s.length_keys ▸ length_eraseDups_le s.keys

theorem length_distinct_keys_eq_iff (s : Shard) :
    s.keys.eraseDups.length = s.requested ↔ s.KeepsApart := by
  rw [← s.length_keys, length_eraseDups_eq_iff]
  exact s.nodup_keys_iff s.labels

/-- The pods that a pass stores where there is nothing are those of the distinct keys. -/
theorem keys_first_pass_perm (s : Shard) (topology : Topology) (config : PassConfig)
    (now : Timestamp) (newUid : Nat → String) :
    (s.afterPass topology config now (.empty newUid)).pods.keys.Perm s.keys.eraseDups := by
  have hstored := s.keys_pods_first_pass topology config now newUid
  refine hstored.trans ((List.perm_ext_iff_of_nodup ?_ (ObjectSet.nodup_eraseDups _)).2 fun key => ?_)
  · exact hstored.nodup_iff.1 (OrdMap.nodup_keys _)
  · simp [Cli.plannedNames_eq, keys, TabletSpec.key]

/-! ## Every requested tablet is its own -/

/-- *When every requested tablet is its own.* The aliases of the compiled tablets are pairwise different if
and only if no two pools ask for tablets of one type in one cell and no two requested places of a cell are
hashed to the same number. Just then their pods have pairwise different keys, and so do their claims; and
just then the pods that a pass desires, and those that a first pass stores, are as many as the replicas of
all pools together. Otherwise they are fewer. -/
theorem requested_apart_iff (s : Shard) (parentLabels : StringMap) :
    let tablets := s.tabletsWith parentLabels
    tablets.length = s.requested ∧
    ((tablets.map (·.identity)).Nodup ↔ s.KeepsApart) ∧
    ((tablets.map (·.key s.ns)).Nodup ↔ s.KeepsApart) ∧
    (s.KeepsApart → ((tablets.filter (·.claimTemplate.isSome)).map (·.key s.ns)).Nodup) ∧
    ∀ {σ : Type} (input : PassInput σ), input.shard = s →
      let desired := input.podSet.keys.eraseDups
      desired.length ≤ s.requested ∧ (desired.length = s.requested ↔ s.KeepsApart) ∧
      ∀ topology config now newUid,
        (s.afterPass topology config now (.empty newUid)).pods.keys.length = desired.length := by
  intro tablets
  refine ⟨?_, ?_, s.nodup_keys_iff parentLabels, fun h => ?_, ?_⟩
  · rw [← s.length_places, ← s.map_place_tabletsWith parentLabels, List.length_map]
  · rw [map_identity_tabletsWith, nodup_aliases_iff]
  · exact ((s.nodup_keys_iff parentLabels).2 h).sublist ((List.filter_sublist).map _)
  · rintro σ input rfl
    exact ⟨length_distinct_keys_le _, length_distinct_keys_eq_iff _,
      fun topology config now newUid =>
        (keys_first_pass_perm _ topology config now newUid).length_eq⟩

/-- A shard with pools of two types in one cell. -/
def sampleTwoPools (keyRange : KeyRange) (replicas rdonly : Int32) : Shard :=
  { (sample 0).withPools [.sample .replica replicas, .sample .rdonly rdonly] with
    spec.keyRange := keyRange }

theorem sample_pools_apart :
    (sampleTwoPools {} 3 2).KeepsApart ∧ (sampleTwoPools {} 3 2).keys.eraseDups.length = 5 := by
  have happart : (sampleTwoPools {} 3 2).KeepsApart := by decide +kernel
  obtain ⟨-, -, -, -, hpass⟩ := requested_apart_iff (sampleTwoPools {} 3 2) {}
  exact ⟨happart, ((hpass {
    cluster := .inMemory, topology := Topology.sample.service, config := {},
    shard := sampleTwoPools {} 3 2, now := .sample } rfl).2.1).2 happart⟩

/-- In the first shard the only tablet of one pool and the second of the other, which sit at different
places, are hashed to the same number; of the three tablets two are run, and none is of the first pool. In
the second shard two pools ask for the same place. -/
theorem sample_tablets_merged :
    let clashing := sampleTwoPools ⟨"7bd2", "9f41"⟩ 1 2
    let repeated := (sample 0).withPools [.sample .replica 1, .sample .replica 1]
    (clashing.places.Nodup ∧ clashing.requested = 3 ∧
      ¬(clashing.tablets.map (·.identity)).Nodup ∧ clashing.keys.eraseDups.length = 2 ∧
      clashing.byKey.values.map (·.type) = [.rdonly, .rdonly]) ∧
    (repeated.requested = 2 ∧ ¬(repeated.tablets.map (·.identity)).Nodup ∧
      repeated.keys.eraseDups.length = 1) := by
  decide +kernel

end Shard

end TabletFleet
