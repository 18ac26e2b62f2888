import Mathlib.Algebra.GroupWithZero.Nat
import Mathlib.Data.List.Nodup
import TabletFleet.Tablet.Spec

set_option autoImplicit false

/-! # Places of tablets

A tablet sits at a place of its shard: in a cell, in the pools of a type, and at an index there. A pool asks
for the places of its type in its cell, from the first one on, and a shard for those of its pools one after
another. The place alone, with the keyspace and the key range of the shard, decides the tablet's alias
(`Shard.identity_eq`). -/

namespace TabletFleet

/-- Where a tablet sits in its shard. -/
structure TabletPlace where
  cell : String
  type : PoolType
  index : Nat
deriving DecidableEq

def TabletSpec.place (t : TabletSpec) : TabletPlace := ⟨t.identity.cell, t.type, t.index⟩

/-! ## Places of a pool -/

theorem toNatClampNeg_pos_iff {n : Int32} : 0 < n.toNatClampNeg ↔ 0 < n := by
  rw [← Int32.toNat_toInt, Int32.lt_iff_toInt_lt, Int32.toInt_zero]
  omega

namespace TabletPool

/-- The places that a pool asks for. -/
def places (pool : TabletPool) : List TabletPlace :=
  (List.range pool.replicas.toNatClampNeg).map fun i => ⟨pool.cell, pool.type, i + 1⟩

theorem mem_places {pool : TabletPool} {p : TabletPlace} : p ∈ pool.places ↔
    p.cell = pool.cell ∧ p.type = pool.type ∧ 1 ≤ p.index ∧ p.index ≤ pool.replicas.toNatClampNeg := by
  simp only [places, List.mem_map, List.mem_range]
  constructor
  · rintro ⟨i, hi, rfl⟩
    exact ⟨rfl, rfl, Nat.succ_le_succ i.zero_le, hi⟩
  · obtain ⟨cell, type, index⟩ := p
    rintro ⟨rfl, rfl, hlow, hhigh⟩
    exact ⟨index - 1, Nat.sub_one_lt_of_le hlow hhigh, by rw [Nat.sub_add_cancel hlow]⟩

theorem length_places (pool : TabletPool) :
    pool.places.length = pool.replicas.toNatClampNeg := by
  rw [places, List.length_map, List.length_range]

theorem nodup_places (pool : TabletPool) : pool.places.Nodup := by
  refine List.nodup_range.map fun i j h => ?_
  exact Nat.succ.inj (congrArg TabletPlace.index h)

/-- Pools ask for a place in common if and only if both ask for places, of one type in one cell. -/
theorem disjoint_places_iff {p q : TabletPool} : List.Disjoint p.places q.places ↔
    (0 < p.replicas → 0 < q.replicas → ¬(p.cell = q.cell ∧ p.type = q.type)) := by
  constructor
  · rintro hdisjoint hp hq ⟨hcell, htype⟩
    -- they share the first place
    have hp' := toNatClampNeg_pos_iff.2 hp
    have hq' := toNatClampNeg_pos_iff.2 hq
    refine hdisjoint (a := ⟨p.cell, p.type, 1⟩) (mem_places.2 ?_) (mem_places.2 ?_)
    · exact ⟨rfl, rfl, Nat.le_refl 1, hp'⟩
    · exact ⟨hcell, htype, Nat.le_refl 1, hq'⟩
  · intro hapart place hmem hmem'
    obtain ⟨hcell, htype, hlow, hhigh⟩ := mem_places.1 hmem
    obtain ⟨hcell', htype', -, hhigh'⟩ := mem_places.1 hmem'
    refine hapart (toNatClampNeg_pos_iff.1 ?_) (toNatClampNeg_pos_iff.1 ?_) ⟨?_, ?_⟩
    · omega
    · omega
    · exact hcell.symm.trans hcell'
    · exact htype.symm.trans htype'

/-- A pool of so many tablets, to try things on. -/
def sample (type : PoolType) (replicas : Int32) : TabletPool := { cell := "zone1", type, replicas }

end TabletPool

/-! ## Places of a shard -/

namespace Shard

/-- The same shard with other pools. -/
def withPools (s : Shard) (pools : List TabletPool) : Shard :=
  { s with spec := { s.spec with tabletPools := pools } }

/-- The places that the shard asks for, in the order of its tablets. -/
def places (s : Shard) : List TabletPlace := s.spec.tabletPools.flatMap (·.places)

/-- The alias of the tablet at a place. -/
def aliasAt (s : Shard) (p : TabletPlace) : TabletAlias where
  cell := p.cell
  uid := tabletUid p.cell s.keyspaceName s.spec.keyRange p.type p.index

/-- How many tablets the shard asks for. -/
def requested (s : Shard) : Nat := (s.spec.tabletPools.map (·.replicas.toNatClampNeg)).sum

theorem length_places (s : Shard) : s.places.length = s.requested := by
  simp only [places, requested, List.length_flatMap, TabletPool.length_places]

theorem mem_tabletsWith_iff {s : Shard} {parentLabels : StringMap} {t : TabletSpec} :
    t ∈ s.tabletsWith parentLabels ↔
      ∃ pool ∈ s.spec.tabletPools, t ∈ s.poolTablets parentLabels pool :=
  List.mem_flatMap

/-- The tablets of a pool are made one by one, each from its index. -/
theorem mem_poolTablets_iff {s : Shard} {parentLabels : StringMap} {pool : TabletPool}
    {t : TabletSpec} : t ∈ s.poolTablets parentLabels pool ↔
      ∃ i < pool.replicas.toNatClampNeg, s.tablet parentLabels pool (i + 1) = t := by
  simp only [poolTablets, List.mem_map, List.mem_range]

theorem identity_eq {s : Shard} {parentLabels : StringMap} {t : TabletSpec}
    (ht : t ∈ s.tabletsWith parentLabels) : t.identity = s.aliasAt t.place := by
  obtain ⟨pool, -, ht⟩ := mem_tabletsWith_iff.1 ht
  obtain ⟨i, -, rfl⟩ := mem_poolTablets_iff.1 ht
  rfl

theorem name_eq {s : Shard} {parentLabels : StringMap} {t : TabletSpec}
    (ht : t ∈ s.tabletsWith parentLabels) : t.name = t.identity.podName s.clusterName := by
  obtain ⟨pool, -, ht⟩ := mem_tabletsWith_iff.1 ht
  obtain ⟨i, -, rfl⟩ := mem_poolTablets_iff.1 ht
  rfl

theorem map_place_poolTablets (s : Shard) (parentLabels : StringMap) (pool : TabletPool) :
    (s.poolTablets parentLabels pool).map (·.place) = pool.places := by
  rw [poolTablets, List.map_map]
  rfl

theorem map_place_tabletsWith (s : Shard) (parentLabels : StringMap) :
    (s.tabletsWith parentLabels).map (·.place) = s.places := by
  simp only [tabletsWith, places, List.map_flatMap, map_place_poolTablets]

theorem map_identity_tabletsWith (s : Shard) (parentLabels : StringMap) :
    (s.tabletsWith parentLabels).map (·.identity) = s.places.map s.aliasAt := by
  rw [← s.map_place_tabletsWith parentLabels, List.map_map]
  exact List.map_congr_left fun t ht => identity_eq ht

/-- The tablet at a place has the same alias in all shards of the same keyspace and key range. -/
theorem aliasAt_congr {s s' : Shard} (hkeyspace : s.keyspaceName = s'.keyspaceName)
    (hrange : s.spec.keyRange = s'.spec.keyRange) (p : TabletPlace) : s.aliasAt p = s'.aliasAt p := by
  rw [aliasAt, aliasAt, hkeyspace, hrange]

end Shard

end TabletFleet
