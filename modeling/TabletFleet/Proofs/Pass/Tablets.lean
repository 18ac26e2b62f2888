import TabletFleet.Pass.ShardPass
import TabletFleet.Proofs.OrdMap
import TabletFleet.Proofs.Tablet.Places

set_option autoImplicit false

/-! # Desired tablets and their status entries

A pass enters every desired tablet at the key of its objects, with a status under the text of its
alias. Keys and texts determine each other: the name of a tablet's objects is made from its alias. So
what a callback does to the status of the tablet at one key leaves the tablets at all other keys as
they are. -/

namespace TabletFleet

/-! ## Keys and aliases -/

namespace Shard

/-- The keys of the desired tablets' objects. -/
def keys (shard : Shard) : List ObjectKey := shard.tablets.map (·.key shard.ns)

/-- The keys of the desired claims. -/
def claimKeys (shard : Shard) : List ObjectKey :=
  (shard.tablets.filter (·.claimTemplate.isSome)).map (·.key shard.ns)

/-- The desired tablets by the key of their objects; of several with one key the last. -/
def byKey (shard : Shard) : OrdMap ObjectKey TabletSpec :=
  .ofList (shard.tablets.map fun t => (t.key shard.ns, t))

/-- The text of the alias of the tablet at a key. -/
def textAt (shard : Shard) (key : ObjectKey) : Option String :=
  (shard.byKey.get? key).map (·.identity.text)

theorem claimKeys_subset (shard : Shard) : shard.claimKeys ⊆ shard.keys :=
  List.map_subset _ fun _ h => (List.mem_filter.1 h).1

theorem mem_claimKeys_iff {shard : Shard} {key : ObjectKey} : key ∈ shard.claimKeys ↔
    ∃ t ∈ shard.tablets, t.claimTemplate.isSome = true ∧ t.key shard.ns = key := by
  simp only [claimKeys, List.mem_map, List.mem_filter, and_assoc]

/-- The desired tablets are those of the pools, with as many as each has replicas. -/
theorem mem_tablets_iff {shard : Shard} {t : TabletSpec} : t ∈ shard.tablets ↔
    ∃ pool ∈ shard.spec.tabletPools, ∃ i < pool.replicas.toNatClampNeg,
      shard.tablet shard.labels pool (i + 1) = t := by
  simp only [tablets, mem_tabletsWith_iff, mem_poolTablets_iff]

theorem name_of_mem_tablets {shard : Shard} {t : TabletSpec} (h : t ∈ shard.tablets) :
    t.name = t.identity.podName shard.clusterName :=
  name_eq h

theorem of_byKey {shard : Shard} {key : ObjectKey} {t : TabletSpec}
    (h : shard.byKey.get? key = some t) : t ∈ shard.tablets ∧ t.key shard.ns = key := by
  rcases OrdMap.get?_insertMany_cases h with hmem | hempty
  · obtain ⟨t', ht', heq⟩ := List.mem_map.1 hmem
    rw [Prod.mk.injEq] at heq
    obtain ⟨hkey, rfl⟩ := heq
    exact ⟨ht', hkey⟩
  · rw [OrdMap.get?_empty] at hempty
    cases hempty

theorem isSome_byKey (shard : Shard) (key : ObjectKey) :
    (shard.byKey.get? key).isSome = true ↔ key ∈ shard.keys := by
  rw [byKey, OrdMap.ofList, OrdMap.isSome_get?_insertMany]
  simp [keys]

theorem exists_byKey {shard : Shard} {key : ObjectKey} (h : key ∈ shard.keys) :
    ∃ t, shard.byKey.get? key = some t :=
  Option.isSome_iff_exists.1 ((shard.isSome_byKey key).2 h)

theorem byKey_eq_none {shard : Shard} {key : ObjectKey} (h : key ∉ shard.keys) :
    shard.byKey.get? key = none := by
  rw [← Option.not_isSome_iff_eq_none, isSome_byKey]
  exact h

/-- The objects of a tablet are named by its alias. -/
theorem key_of_textAt {shard : Shard} {key : ObjectKey} {text : String}
    (h : shard.textAt key = some text) :
    key = ⟨shard.ns, shard.clusterName ++ "-vttablet-" ++ text⟩ := by
  obtain ⟨t, ht, rfl⟩ := Option.map_eq_some_iff.1 h
  obtain ⟨hmem, rfl⟩ := of_byKey ht
  rw [TabletSpec.key, name_of_mem_tablets hmem, TabletAlias.podName]

theorem key_eq_of_textAt {shard : Shard} {key key' : ObjectKey} {text : String}
    (h : shard.textAt key = some text) (h' : shard.textAt key' = some text) : key = key' := by
  rw [key_of_textAt h, key_of_textAt h']

/-- The text of every desired tablet's alias is found at its key. -/
theorem textAt_of_mem {shard : Shard} {t : TabletSpec} (h : t ∈ shard.tablets) :
    shard.textAt (t.key shard.ns) = some t.identity.text := by
  have hkey : t.key shard.ns ∈ shard.keys := List.mem_map_of_mem h
  obtain ⟨t', ht'⟩ := exists_byKey hkey
  obtain ⟨hmem, heq⟩ := of_byKey ht'
  -- the map may hold another tablet with this key, but then their aliases read the same
  have hname : t'.name = t.name := congrArg ObjectKey.name heq
  rw [name_of_mem_tablets hmem, name_of_mem_tablets h, TabletAlias.podName,
    TabletAlias.podName] at hname
  have htext : t'.identity.text = t.identity.text := (String.append_right_inj _).1 hname
  rw [textAt, ht', Option.map_some, htext]

theorem exists_textAt_iff {shard : Shard} {key : ObjectKey} :
    (∃ text, shard.textAt key = some text) ↔ key ∈ shard.keys := by
  rw [← isSome_byKey, textAt, Option.isSome_iff_exists]
  constructor
  · rintro ⟨text, h⟩
    obtain ⟨t, ht, -⟩ := Option.map_eq_some_iff.1 h
    exact ⟨t, ht⟩
  · rintro ⟨t, ht⟩
    exact ⟨t.identity.text, by rw [ht, Option.map_some]⟩

end Shard

/-! ## The state of a pass -/

namespace PassState

variable {σ : Type}

/-- The tablets of the shard are entered, and nothing else is. -/
structure Entered (shard : Shard) (s : PassState σ) : Prop where
  texts : ∀ key, (s.tablets.get? key).map (·.identity.text) = shard.textAt key
  entries : ∀ text, (s.status.tablets.get? text).isSome = true ↔
    ∃ key, shard.textAt key = some text

/-- Whether the tablet at a key is reported as ready; nothing if there is no tablet. -/
def readyAt (shard : Shard) (s : PassState σ) (key : ObjectKey) : Option ConditionStatus :=
  (shard.textAt key).bind fun text => (s.status.tablets.get? text).map (·.ready)

theorem Entered.exists_readyAt {shard : Shard} {s : PassState σ} (h : s.Entered shard)
    {key : ObjectKey} (hkey : key ∈ shard.keys) : ∃ ready, s.readyAt shard key = some ready := by
  obtain ⟨text, htext⟩ := Shard.exists_textAt_iff.2 hkey
  obtain ⟨entry, hentry⟩ := Option.isSome_iff_exists.1 ((h.entries text).2 ⟨key, htext⟩)
  exact ⟨entry.ready, by rw [readyAt, htext, Option.bind_some, hentry, Option.map_some]⟩

/-- All entries of the status are ready just when all desired tablets are. -/
theorem Entered.isHealthy_iff {shard : Shard} {s : PassState σ} (h : s.Entered shard) :
    Turndown.isHealthy s.status.tablets = true ↔
      ∀ key ∈ shard.keys, s.readyAt shard key = some .yes := by
  rw [Turndown.isHealthy, List.all_eq_true]
  constructor
  · intro hall key hkey
    obtain ⟨text, htext⟩ := Shard.exists_textAt_iff.2 hkey
    obtain ⟨entry, hentry⟩ := Option.isSome_iff_exists.1 ((h.entries text).2 ⟨key, htext⟩)
    have hmem : entry ∈ s.status.tablets.values :=
      List.mem_map_of_mem (OrdMap.mem_toList.2 hentry)
    have hready : entry.ready = .yes := by simpa using hall entry hmem
    rw [readyAt, htext, Option.bind_some, hentry, Option.map_some, hready]
  · intro hall entry hmem
    obtain ⟨e, he, rfl⟩ := List.mem_map.1 hmem
    have hentry : s.status.tablets.get? e.1 = some e.2 := OrdMap.mem_toList.1 he
    obtain ⟨key, htext⟩ := (h.entries e.1).1 (by rw [hentry, Option.isSome_some])
    have hready := hall key (Shard.exists_textAt_iff.1 ⟨e.1, htext⟩)
    rw [readyAt, htext, Option.bind_some, hentry, Option.map_some, Option.some.injEq] at hready
    simp [hready]

/-- A tablet that is entered may be marked in every way that leaves its identity. -/
theorem Entered.mark {shard : Shard} {s : PassState σ} (h : s.Entered shard) {key : ObjectKey}
    {t t' : TabletSpec} (ht : s.tablets.get? key = some t) (hidentity : t'.identity = t.identity) :
    PassState.Entered shard { s with tablets := s.tablets.insert key t' } where
  texts k := by
    rw [OrdMap.get?_insert]
    by_cases hk : k = key
    · rw [if_pos hk, hk, ← h.texts, ht, Option.map_some, Option.map_some, hidentity]
    · rw [if_neg hk, h.texts]
  entries := h.entries

/-! ## Changes of a status entry -/

section Modify

variable {shard : Shard} {s : PassState σ} {key : ObjectKey} {f : TabletStatus → TabletStatus}

theorem tablets_modifyTablet : (s.modifyTablet key f).tablets = s.tablets := by
  rw [modifyTablet]
  cases s.tablets.get? key <;> rfl

theorem world_modifyTablet : (s.modifyTablet key f).world = s.world := by
  rw [modifyTablet]
  cases s.tablets.get? key <;> rfl

theorem modifyTablet_of_none (h : s.tablets.get? key = none) : s.modifyTablet key f = s := by
  rw [modifyTablet, h]

theorem Entered.get?_modifyTablet (h : s.Entered shard) (text : String) :
    (s.modifyTablet key f).status.tablets.get? text =
      if shard.textAt key = some text then (s.status.tablets.get? text).map f
      else s.status.tablets.get? text := by
  rw [modifyTablet, ← h.texts key]
  cases s.tablets.get? key with
  | none => rfl
  | some t =>
      simp only [OrdMap.get?_modify, Option.map_some, Option.some.injEq]
      by_cases heq : text = t.identity.text
      · rw [if_pos heq, if_pos heq.symm]
      · rw [if_neg heq, if_neg (Ne.symm heq)]

theorem Entered.modifyTablet (h : s.Entered shard) (key : ObjectKey)
    (f : TabletStatus → TabletStatus) : (s.modifyTablet key f).Entered shard where
  texts k := by rw [tablets_modifyTablet, h.texts]
  entries text := by
    rw [h.get?_modifyTablet, ← h.entries]
    split
    · rw [Option.isSome_map]
    · rfl

theorem Entered.readyAt_modifyTablet (h : s.Entered shard) {k : ObjectKey} (hk : k ≠ key) :
    (s.modifyTablet key f).readyAt shard k = s.readyAt shard k := by
  unfold readyAt
  cases htext : shard.textAt k with
  | none => rfl
  | some text =>
      -- the aliases at two keys never read the same, so it is another entry that changes
      have hne : shard.textAt key ≠ some text := fun h' =>
        hk (Shard.key_eq_of_textAt htext h')
      rw [Option.bind_some, Option.bind_some, h.get?_modifyTablet, if_neg hne]

theorem Entered.readyAt_modifyTablet_self (h : s.Entered shard) (key : ObjectKey)
    {g : ConditionStatus → ConditionStatus} (hf : ∀ t, (f t).ready = g t.ready) :
    (s.modifyTablet key f).readyAt shard key = (s.readyAt shard key).map g := by
  unfold readyAt
  cases htext : shard.textAt key with
  | none => rfl
  | some text =>
      rw [Option.bind_some, Option.bind_some, h.get?_modifyTablet, if_pos htext]
      cases s.status.tablets.get? text with
      | none => rfl
      | some entry => simp only [Option.map_some, hf]

end Modify

/-! ## The start -/

theorem foldl_addTablet (ns : String) (ts : List TabletSpec) (s : PassState σ) :
    (ts.foldl (addTablet ns) s).world = s.world ∧
    (ts.foldl (addTablet ns) s).tablets = s.tablets.insertMany (ts.map fun t => (t.key ns, t)) ∧
    ∀ text, ((ts.foldl (addTablet ns) s).status.tablets.get? text).isSome = true ↔
      (∃ t ∈ ts, t.identity.text = text) ∨ (s.status.tablets.get? text).isSome = true := by
  induction ts generalizing s with
  | nil => exact ⟨rfl, rfl, by simp⟩
  | cons t ts ih =>
      obtain ⟨hworld, htablets, hentries⟩ := ih (s.addTablet ns t)
      rw [List.foldl_cons]
      refine ⟨hworld, htablets, fun text => ?_⟩
      rw [hentries, addTablet, OrdMap.get?_insert]
      by_cases heq : text = t.identity.text
      · simp [heq]
      · simp [heq, Ne.symm heq]

end PassState

namespace PassInput

variable {σ : Type} (input : PassInput σ) (w : σ)

theorem world_start : (input.start w).world = w :=
  (PassState.foldl_addTablet _ _ _).1

theorem tablets_start : (input.start w).tablets = input.shard.byKey :=
  (PassState.foldl_addTablet _ _ _).2.1

theorem entered_start : (input.start w).Entered input.shard where
  texts key := by rw [tablets_start, Shard.textAt]
  entries text := by
    have h := (PassState.foldl_addTablet input.shard.ns input.shard.tablets { world := w }).2.2 text
    rw [start, h]
    constructor
    · rintro (⟨t, ht, rfl⟩ | hempty)
      · exact ⟨_, Shard.textAt_of_mem ht⟩
      · cases hempty
    · rintro ⟨key, htext⟩
      obtain ⟨t, ht, rfl⟩ := Option.map_eq_some_iff.1 htext
      exact .inl ⟨t, (Shard.of_byKey ht).1, rfl⟩

end PassInput

end TabletFleet
