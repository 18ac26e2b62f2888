import TabletFleet.Proofs.Tablet.Places

set_option autoImplicit false

/-! # Edits of pools

The tablets of a shard are those of its pools one after another, and those of a pool one index after
another. Nothing about a tablet depends on the pools beside its own or on the size of its own
(`Shard.tabletsWith_withPools`, `Shard.poolTablets_resized`). So a pool that grows adds tablets behind its
earlier ones, a pool that comes or goes brings or takes its own, and all other tablets stay as they are. -/

namespace TabletFleet.Shard

/-! ## Tablets of a pool -/

/-- The tablets of a pool behind the first `lo` of them, up to the one with index `hi`. -/
def tabletsBetween (s : Shard) (parentLabels : StringMap) (pool : TabletPool) (lo hi : Nat) :
    List TabletSpec :=
  (List.range' (lo + 1) (hi - lo)).map (s.tablet parentLabels pool)

section Pool

variable (s : Shard) (parentLabels : StringMap) (pool : TabletPool)

theorem poolTablets_eq : s.poolTablets parentLabels pool =
    s.tabletsBetween parentLabels pool 0 pool.replicas.toNatClampNeg := by
  rw [poolTablets, tabletsBetween, Nat.sub_zero, List.range'_eq_map_range, List.map_map]
  refine List.map_congr_left fun i _ => ?_
  rw [Function.comp_apply, Nat.zero_add, Nat.add_comm]

theorem tabletsBetween_append {lo mid hi : Nat} (hlo : lo ≤ mid) (hhi : mid ≤ hi) :
    s.tabletsBetween parentLabels pool lo hi =
      s.tabletsBetween parentLabels pool lo mid ++ s.tabletsBetween parentLabels pool mid hi := by
  have hstart : mid + 1 = (lo + 1) + (mid - lo) := by omega
  have hlength : hi - lo = (mid - lo) + (hi - mid) := by omega
  rw [tabletsBetween, tabletsBetween, tabletsBetween, ← List.map_append, hstart,
    List.range'_append_1, hlength]

theorem map_place_tabletsBetween (lo hi : Nat) :
    (s.tabletsBetween parentLabels pool lo hi).map (·.place) =
      (List.range' (lo + 1) (hi - lo)).map (⟨pool.cell, pool.type, ·⟩) := by
  rw [tabletsBetween, List.map_map]
  rfl

/-- How many tablets a pool has is no matter of any of them. -/
theorem poolTablets_resized (n : Int32) : s.poolTablets parentLabels { pool with replicas := n } =
    s.tabletsBetween parentLabels pool 0 n.toNatClampNeg :=
  s.poolTablets_eq parentLabels { pool with replicas := n }

theorem toNatClampNeg_le {n m : Int32} (h : n ≤ m) : n.toNatClampNeg ≤ m.toNatClampNeg := by
  rw [← Int32.toNat_toInt, ← Int32.toNat_toInt]
  exact Int.toNat_le_toNat (Int32.le_iff_toInt_le.1 h)

theorem poolTablets_grown {n m : Int32} (h : n ≤ m) :
    s.poolTablets parentLabels { pool with replicas := m } =
      s.poolTablets parentLabels { pool with replicas := n } ++
        s.tabletsBetween parentLabels pool n.toNatClampNeg m.toNatClampNeg := by
  rw [poolTablets_resized, poolTablets_resized]
  exact s.tabletsBetween_append parentLabels pool (Nat.zero_le _) (toNatClampNeg_le h)

end Pool

/-- What the other pools of a shard are is no matter of the tablets of a pool. -/
theorem tabletsWith_withPools (s : Shard) (parentLabels : StringMap) (pools : List TabletPool) :
    (s.withPools pools).tabletsWith parentLabels = pools.flatMap (s.poolTablets parentLabels) :=
  rfl

/-! ## Edits -/

/-- *Edits of pools leave other tablets alone.* When a pool grows from `n` replicas to `m`, its tablets with
the indexes from `n + 1` to `m` come in, in this order, behind those that the pool and the pools before it
have already, and all others stay as they are; negative counts are none. A whole pool that comes in or goes
brings or takes its own tablets only. And in shards of one keyspace and key range, whatever their pools, the
tablets at the same place have the same alias. -/
theorem pool_edits_stay_local (s : Shard) (parentLabels : StringMap) :
    (∀ (before after : List TabletPool) (pool : TabletPool) (n m : Int32), n ≤ m →
      let compiled pools := (s.withPools pools).tabletsWith parentLabels
      let earlier := compiled (before ++ [{ pool with replicas := n }])
      let added := s.tabletsBetween parentLabels pool n.toNatClampNeg m.toNatClampNeg
      compiled (before ++ { pool with replicas := n } :: after) = earlier ++ compiled after ∧
      compiled (before ++ { pool with replicas := m } :: after) =
        earlier ++ added ++ compiled after ∧
      added.map (·.place) =
        (List.range' (n.toNatClampNeg + 1) (m.toNatClampNeg - n.toNatClampNeg)).map
          (⟨pool.cell, pool.type, ·⟩)) ∧
    (∀ (before after : List TabletPool) (pool : TabletPool),
      let compiled pools := (s.withPools pools).tabletsWith parentLabels
      compiled (before ++ after) = compiled before ++ compiled after ∧
      compiled (before ++ pool :: after) =
        compiled before ++ s.poolTablets parentLabels pool ++ compiled after) ∧
    ∀ (s' : Shard) (parentLabels' : StringMap), s.keyspaceName = s'.keyspaceName →
      s.spec.keyRange = s'.spec.keyRange →
      ∀ t ∈ s.tabletsWith parentLabels, ∀ t' ∈ s'.tabletsWith parentLabels',
        t.place = t'.place → t.identity = t'.identity := by
  refine ⟨fun before after pool n m h => ?_, fun before after pool => ?_, ?_⟩
  · intro compiled earlier added
    refine ⟨?_, ?_, s.map_place_tabletsBetween parentLabels pool _ _⟩
    · simp only [compiled, earlier, tabletsWith_withPools, List.flatMap_append, List.flatMap_cons,
        List.flatMap_nil, List.append_nil, List.append_assoc]
    · simp only [compiled, earlier, added, tabletsWith_withPools, List.flatMap_append,
        List.flatMap_cons, List.flatMap_nil, List.append_nil, List.append_assoc,
        s.poolTablets_grown parentLabels pool h]
  · intro compiled
    constructor
    · simp only [compiled, tabletsWith_withPools, List.flatMap_append]
    · simp only [compiled, tabletsWith_withPools, List.flatMap_append, List.flatMap_cons,
        List.append_assoc]
  · intro s' parentLabels' hkeyspace hrange t ht t' ht' hplace
    rw [identity_eq ht, identity_eq ht', hplace]
    exact aliasAt_congr hkeyspace hrange t'.place

/-- A shard with three pools, of which the second grows from less than none to two tablets. -/
def sampleGrowing (n : Int32) : Shard :=
  ({ spec := { name := "-" } } : Shard).withPools
    [.sample .replica 1, .sample .rdonly n, .sample .externalReplica 1]

/-- Another shard of the same keyspace and key range, with a larger pool of the same kind. -/
def sampleOtherPools : Shard :=
  { spec := { name := "all", databaseName := "db", tabletPools := [.sample .rdonly 7] } }

theorem sample_pool_grown :
    (∃ earlier added later,
      (sampleGrowing (-1)).tabletsWith .empty = earlier ++ later ∧
      (sampleGrowing 2).tabletsWith .empty = earlier ++ added ++ later ∧
      added.map (·.place) = [⟨"zone1", .rdonly, 1⟩, ⟨"zone1", .rdonly, 2⟩]) ∧
    ∃ t ∈ (sampleGrowing 2).tabletsWith .empty, ∃ t' ∈ sampleOtherPools.tabletsWith .empty,
      t ≠ t' ∧ t.identity = t'.identity := by
  constructor
  · obtain ⟨hbefore, hafter, hplaces⟩ := (pool_edits_stay_local (sampleGrowing 0) .empty).1
      [.sample .replica 1] [.sample .externalReplica 1] (.sample .rdonly 0) (-1) 2 (by decide)
    exact ⟨_, _, _, hbefore, hafter, hplaces⟩
  · have ht : (sampleGrowing 2).tablet .empty (.sample .rdonly 2) 2 ∈
        (sampleGrowing 2).tabletsWith .empty :=
      mem_tabletsWith_iff.2 ⟨.sample .rdonly 2, by decide, mem_poolTablets_iff.2 ⟨1, by decide, rfl⟩⟩
    have ht' : sampleOtherPools.tablet .empty (.sample .rdonly 7) 2 ∈
        sampleOtherPools.tabletsWith .empty :=
      mem_tabletsWith_iff.2 ⟨.sample .rdonly 7, by decide, mem_poolTablets_iff.2 ⟨1, by decide, rfl⟩⟩
    refine ⟨_, ht, _, ht', fun h => absurd (congrArg TabletSpec.shardName h) (by decide), ?_⟩
    exact (pool_edits_stay_local (sampleGrowing 2) .empty).2.2 sampleOtherPools .empty rfl rfl
      _ ht _ ht' rfl

end TabletFleet.Shard
