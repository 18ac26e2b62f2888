import TabletFleet.Proofs.Cluster.PartsReadBack
import TabletFleet.Shard.Resource

set_option autoImplicit false

/-! # Shard resources are read back

A shard resource is read as what it was written from, and what was read from a document is read again as
the same after it was written (`Shard.resource_round_trips`). Everything that is written has its members
listed under different names, so that each field is looked up by its name and read by itself.

The types that belong to the cluster's API come in as an assumption about the values of them that a shard
holds (`Shard.PartsReadBack`). Values that were read from a document meet it, whatever the document leaves
out or adds. -/

namespace TabletFleet

open Document

/-! ## Names of alternatives -/

theorem PoolType.ofDocument?_name (t : PoolType) : ofDocument? (Json.str t.name) = some t :=
  ofName?_name t

theorem ConditionStatus.ofDocument?_name (s : ConditionStatus) :
    ofDocument? (Json.str s.name) = some s :=
  ofName?_name s

theorem UpdateStrategy.ofDocument?_name (s : UpdateStrategy) :
    ofDocument? (Json.str s.name) = some s :=
  ofName?_name s

/-! ## Status -/

/-- Pending changes are left out if there are none, and so is an error. -/
theorem TabletStatus.write_object (s : TabletStatus) : s.write .object = .objectOf [
    ("type", some (.str s.type.name)), ("index", some (.int s.index.toInt)),
    ("running", some (.str s.running.name)), ("ready", some (.str s.ready.name)),
    ("available", some (.str s.available.name)),
    ("dataVolumeBound", some (.str s.dataVolumeBound.name)),
    ("pendingChanges", if s.pendingChanges.isEmpty then none else some (.str s.pendingChanges)),
    ("lastError", s.lastError.map .str)] := by
  unfold write Json.objectOf
  cases s.lastError <;> split <;> rfl

theorem TabletStatus.ofDocument?_write (s : TabletStatus) : ofDocument? (s.write .object) = some s := by
  obtain ⟨ms, hwritten, hget⟩ := Json.of_objectOf (by simp) s.write_object
  simp only [List.forall_mem_cons] at hget
  obtain ⟨htype, hindex, hrunning, hready, havailable, hbound, hpending, herror, -⟩ := hget
  have hpendingRead : defaulted ms.toList "pendingChanges" "" text? = some s.pendingChanges := by
    rw [defaulted_toList, hpending]
    split
    · next hempty => rw [String.isEmpty_iff.1 hempty, Option.elim_none]
    · rfl
  rw [ofDocument?, hwritten, record?_ofMap, Option.bind_eq_bind, Option.bind_some]
  simp only [required_toList, htype, hindex, hrunning, hready, havailable, hbound, Option.bind_some,
    PoolType.ofDocument?_name, int32?_int, ConditionStatus.ofDocument?_name, hpendingRead,
    optional_of_get? rfl herror fun _ _ => text?_str _]
  rfl

theorem OrphanStatus.ofDocument?_write (s : OrphanStatus) : ofDocument? (s.write .object) = some s := by
  obtain ⟨ms, hms, hget⟩ := record?_object (by simp) (Eq.refl (s.write .object))
  simp only [List.forall_mem_cons] at hget
  rw [ofDocument?, hms, Option.bind_eq_bind, Option.bind_some]
  simp only [hget, Option.bind_some, required_toList, text?_str]
  rfl

theorem ShardStatus.ofDocument?_toJson (s : ShardStatus) : ofDocument? s.toJson = some s := by
  have hcells : list? text? (Json.arr (s.cells.map .str)) = some s.cells :=
    list?_arr fun _ _ => text?_str _
  have htablets : map? TabletStatus.ofDocument? (Json.ofMap (s.tablets.map fun _ t => t.write .object))
      = some s.tablets := map?_ofMap fun _ _ _ => TabletStatus.ofDocument?_write _
  have horphans : map? OrphanStatus.ofDocument?
      (Json.ofMap (s.orphanedTablets.map fun _ o => o.write .object)) = some s.orphanedTablets :=
    map?_ofMap fun _ _ _ => OrphanStatus.ofDocument?_write _
  obtain ⟨ms, hms, hget⟩ := record?_object (by simp) (Eq.refl s.toJson)
  simp only [List.forall_mem_cons] at hget
  rw [ofDocument?, hms, Option.bind_eq_bind, Option.bind_some]
  simp only [hget, defaulted_toList, Option.elim_some, hcells, htablets, horphans, int64?_int]
  rfl

/-! ## Settings -/

theorem KeyRange.ofDocument?_toJson (r : KeyRange) : ofDocument? r.toJson = some r := by
  obtain ⟨ms, hms, hget⟩ := record?_object (by simp) (Eq.refl r.toJson)
  simp only [List.forall_mem_cons] at hget
  rw [ofDocument?, hms, Option.bind_eq_bind, Option.bind_some]
  simp only [hget, defaulted_toList, Option.elim_some, text?_str]
  rfl

theorem TabletImages.ofDocument?_toJson (i : TabletImages) : ofDocument? i.toJson = some i := by
  have hmysqld : nullable? text? (Json.orNull (i.mysqld.map .str)) = some i.mysqld :=
    nullable?_orNull rfl fun _ _ => text?_str _
  obtain ⟨ms, hms, hget⟩ := record?_object (by simp) (Eq.refl i.toJson)
  simp only [List.forall_mem_cons] at hget
  rw [ofDocument?, hms, Option.bind_eq_bind, Option.bind_some]
  simp only [hget, defaulted_toList, optional_toList, Option.elim_some, text?_str, hmysqld]
  rfl

theorem Lockserver.ofDocument?_toJson (l : Lockserver) : ofDocument? l.toJson = some l := by
  obtain ⟨ms, hms, hget⟩ := record?_object (by simp) (Eq.refl l.toJson)
  simp only [List.forall_mem_cons] at hget
  rw [ofDocument?, hms, Option.bind_eq_bind, Option.bind_some]
  simp only [hget, defaulted_toList, Option.elim_some, text?_str]
  rfl

theorem VttabletSettings.ofDocument?_toJson (v : VttabletSettings) : ofDocument? v.toJson = some v := by
  obtain ⟨ms, hms, hget⟩ := record?_object (by simp) (Eq.refl v.toJson)
  simp only [List.forall_mem_cons] at hget
  rw [ofDocument?, hms, Option.bind_eq_bind, Option.bind_some]
  simp only [hget, defaulted_toList, Option.elim_some, stringMap?_ofStringMap,
    ResourceRequirements.ofDocument?_toJson]
  rfl

theorem MysqldSettings.ofDocument?_toJson (m : MysqldSettings) : ofDocument? m.toJson = some m := by
  obtain ⟨ms, hms, hget⟩ := record?_object (by simp) (Eq.refl m.toJson)
  simp only [List.forall_mem_cons] at hget
  rw [ofDocument?, hms, Option.bind_eq_bind, Option.bind_some]
  simp only [hget, defaulted_toList, Option.elim_some, ResourceRequirements.ofDocument?_toJson]
  rfl

theorem BackupLocation.ofDocument?_toJson (b : BackupLocation) : ofDocument? b.toJson = some b := by
  have hroot : nullable? text? (Json.orNull (b.storageRoot.map .str)) = some b.storageRoot :=
    nullable?_orNull rfl fun _ _ => text?_str _
  obtain ⟨ms, hms, hget⟩ := record?_object (by simp) (Eq.refl b.toJson)
  simp only [List.forall_mem_cons] at hget
  rw [ofDocument?, hms, Option.bind_eq_bind, Option.bind_some]
  simp only [hget, defaulted_toList, optional_toList, Option.elim_some, text?_str,
    stringMap?_ofStringMap, hroot]
  rfl

/-! ## Pools -/

/-- What a pool takes over from the types of the cluster's API is read as what it was written from. -/
structure TabletPool.PartsReadBack (p : TabletPool) : Prop where
  claim : ∀ c, p.dataVolumeClaimTemplate = some c → ClaimSpec.ofDocument? c.toJson = some c
  affinity : ∀ a, p.affinity = some a → Affinity.ofDocument? a.toJson = some a
  tolerations : ∀ t ∈ p.tolerations, Toleration.ofDocument? t.toJson = some t

theorem TabletPool.ofDocument?_toJson {p : TabletPool} (h : p.PartsReadBack) :
    ofDocument? p.toJson = some p := by
  have hmysqld : nullable? MysqldSettings.ofDocument? (Json.orNull (p.mysqld.map (·.toJson)))
      = some p.mysqld := nullable?_orNull rfl fun _ _ => MysqldSettings.ofDocument?_toJson _
  have hclaim : nullable? ClaimSpec.ofDocument?
      (Json.orNull (p.dataVolumeClaimTemplate.map (·.toJson))) = some p.dataVolumeClaimTemplate :=
    nullable?_orNull rfl h.claim
  have haffinity : nullable? Affinity.ofDocument? (Json.orNull (p.affinity.map (·.toJson)))
      = some p.affinity := nullable?_orNull rfl h.affinity
  have htolerations : list? Toleration.ofDocument? (Json.arr (p.tolerations.map (·.toJson)))
      = some p.tolerations := list?_arr h.tolerations
  obtain ⟨ms, hms, hget⟩ := record?_object (by simp) (Eq.refl p.toJson)
  simp only [List.forall_mem_cons] at hget
  rw [ofDocument?, hms, Option.bind_eq_bind, Option.bind_some]
  simp only [hget, Option.bind_some, required_toList, defaulted_toList, optional_toList,
    Option.elim_some, text?_str, int32?_int, stringMap?_ofStringMap, PoolType.ofDocument?_name,
    VttabletSettings.ofDocument?_toJson, hmysqld, hclaim, haffinity, htolerations]
  rfl

theorem ShardSpec.ofDocument?_toJson {s : ShardSpec} (h : ∀ p ∈ s.tabletPools, p.PartsReadBack) :
    ofDocument? s.toJson = some s := by
  have hpools : list? TabletPool.ofDocument? (Json.arr (s.tabletPools.map (·.toJson)))
      = some s.tabletPools := list?_arr fun p hp => TabletPool.ofDocument?_toJson (h p hp)
  have hlocations : list? BackupLocation.ofDocument? (Json.arr (s.backupLocations.map (·.toJson)))
      = some s.backupLocations := list?_arr fun _ _ => BackupLocation.ofDocument?_toJson _
  obtain ⟨ms, hms, hget⟩ := record?_object (by simp) (Eq.refl s.toJson)
  simp only [List.forall_mem_cons] at hget
  rw [ofDocument?, hms, Option.bind_eq_bind, Option.bind_some]
  simp only [hget, Option.bind_some, required_toList, defaulted_toList, Option.elim_some,
    text?_str, stringMap?_ofStringMap, KeyRange.ofDocument?_toJson,
    TabletImages.ofDocument?_toJson, Lockserver.ofDocument?_toJson,
    UpdateStrategy.ofDocument?_name, hpools, hlocations]
  rfl

/-! ## Shards -/

namespace Shard

/-- What a shard takes over from the types of the cluster's API is read as what it was written from, its
metadata if their times have whole seconds. -/
structure PartsReadBack (s : Shard) : Prop where
  metadata : s.metadata.wholeSeconds = s.metadata →
    ObjectMeta.ofDocument? s.metadata.toJson = some s.metadata
  pools : ∀ p ∈ s.spec.tabletPools, p.PartsReadBack

theorem ofDocument?_toJson {s : Shard} (h : s.PartsReadBack)
    (hwhole : s.metadata.wholeSeconds = s.metadata) : ofDocument? s.toJson = some s := by
  obtain ⟨ms, hms, hget⟩ := record?_object (by simp) (Eq.refl s.toJson)
  simp only [List.forall_mem_cons] at hget
  rw [ofDocument?, hms, Option.bind_eq_bind, Option.bind_some]
  simp only [hget, Option.bind_some, required_toList, defaulted_toList, Option.elim_some,
    h.metadata hwhole, ShardSpec.ofDocument?_toJson h.pools, ShardStatus.ofDocument?_toJson]
  rfl

end Shard

/-! ## Shards that were read -/

section

variable {δ : Type} [Document δ] [TellsNull δ] {d : δ}

theorem TabletPool.partsReadBack_of_ofDocument? {p : TabletPool} (h : ofDocument? d = some p) :
    p.PartsReadBack := by
  obtain ⟨ms, -, h⟩ := Option.bind_eq_some_iff.1 h
  obtain ⟨cell, -, h⟩ := Option.bind_eq_some_iff.1 h
  obtain ⟨type, -, h⟩ := Option.bind_eq_some_iff.1 h
  obtain ⟨replicas, -, h⟩ := Option.bind_eq_some_iff.1 h
  obtain ⟨vttablet, -, h⟩ := Option.bind_eq_some_iff.1 h
  obtain ⟨mysqld, -, h⟩ := Option.bind_eq_some_iff.1 h
  obtain ⟨claim, hclaim, h⟩ := Option.bind_eq_some_iff.1 h
  obtain ⟨backupLocation, -, h⟩ := Option.bind_eq_some_iff.1 h
  obtain ⟨annotations, -, h⟩ := Option.bind_eq_some_iff.1 h
  obtain ⟨extraLabels, -, h⟩ := Option.bind_eq_some_iff.1 h
  obtain ⟨affinity, haffinity, h⟩ := Option.bind_eq_some_iff.1 h
  obtain ⟨tolerations, htolerations, h⟩ := Option.bind_eq_some_iff.1 h
  obtain rfl := Option.some.inj h
  refine ⟨?_, ?_, fun t ht => ?_⟩
  · rintro c rfl
    obtain ⟨d', -, hd'⟩ := of_optional hclaim
    exact ClaimSpec.ofDocument?_toJson (ClaimSpec.readable_of_ofDocument? hd')
  · rintro a rfl
    obtain ⟨d', -, hd'⟩ := of_optional haffinity
    exact Affinity.ofDocument?_toJson_of_read hd'
  · rcases of_defaulted htolerations with rfl | ⟨d', hd'⟩
    · cases ht
    · obtain ⟨d'', hd''⟩ := of_list? hd' ht
      exact Toleration.ofDocument?_toJson_of_read hd''

theorem ShardSpec.partsReadBack_of_ofDocument? {s : ShardSpec} (h : ofDocument? d = some s) :
    ∀ p ∈ s.tabletPools, p.PartsReadBack := by
  obtain ⟨ms, -, h⟩ := Option.bind_eq_some_iff.1 h
  obtain ⟨name, -, h⟩ := Option.bind_eq_some_iff.1 h
  obtain ⟨keyRange, -, h⟩ := Option.bind_eq_some_iff.1 h
  obtain ⟨images, -, h⟩ := Option.bind_eq_some_iff.1 h
  obtain ⟨lockserver, -, h⟩ := Option.bind_eq_some_iff.1 h
  obtain ⟨extraFlags, -, h⟩ := Option.bind_eq_some_iff.1 h
  obtain ⟨pools, hpools, h⟩ := Option.bind_eq_some_iff.1 h
  obtain ⟨backupLocations, -, h⟩ := Option.bind_eq_some_iff.1 h
  obtain ⟨zoneMap, -, h⟩ := Option.bind_eq_some_iff.1 h
  obtain ⟨databaseName, -, h⟩ := Option.bind_eq_some_iff.1 h
  obtain ⟨updateStrategy, -, h⟩ := Option.bind_eq_some_iff.1 h
  obtain rfl := Option.some.inj h
  intro p hp
  rcases of_defaulted hpools with rfl | ⟨d', hd'⟩
  · cases hp
  · obtain ⟨d'', hd''⟩ := of_list? hd' hp
    exact TabletPool.partsReadBack_of_ofDocument? hd''

theorem Shard.readable_of_ofDocument? {s : Shard} (h : ofDocument? d = some s) :
    s.metadata.Readable ∧ ∀ p ∈ s.spec.tabletPools, p.PartsReadBack := by
  unfold ofDocument? at h
  obtain ⟨ms, -, h⟩ := Option.bind_eq_some_iff.1 h
  obtain ⟨metadata, hmetadata, h⟩ := Option.bind_eq_some_iff.1 h
  obtain ⟨spec, hspec, h⟩ := Option.bind_eq_some_iff.1 h
  obtain ⟨status, -, h⟩ := Option.bind_eq_some_iff.1 h
  obtain rfl := Option.some.inj h
  constructor
  · rcases of_defaulted hmetadata with rfl | ⟨d', hd'⟩
    · exact ObjectMeta.readable_default
    · exact ObjectMeta.readable_of_ofDocument? hd'
  · obtain ⟨d', hd'⟩ := of_required hspec
    exact ShardSpec.partsReadBack_of_ofDocument? hd'

end

namespace Shard

theorem partsReadBack_of_readable {s : Shard} (hmetadata : s.metadata.Readable)
    (hpools : ∀ p ∈ s.spec.tabletPools, p.PartsReadBack) : s.PartsReadBack :=
  ⟨ObjectMeta.ofDocument?_toJson hmetadata, hpools⟩

/-- **Shard resources round-trip.** A shard is read as what it was written from, if the values of the API's
types in it are. They are whenever the shard was read from a document, whatever the document left out or
had in addition, and then the shard is read again as the same after it was written: all of it but the
fraction of the second of a deletion. -/
theorem resource_round_trips {δ : Type} [Document δ] [TellsNull δ] :
    (∀ s : Shard, s.PartsReadBack → s.metadata.wholeSeconds = s.metadata →
      ofDocument? s.toJson = some s) ∧
    ∀ (d : δ) (s : Shard), ofDocument? d = some s →
      s.PartsReadBack ∧
        ofDocument? s.toJson = some { s with metadata := s.metadata.wholeSeconds } := by
  refine ⟨fun s hparts hwhole => ofDocument?_toJson hparts hwhole, fun d s hread => ?_⟩
  obtain ⟨hmetadata, hpools⟩ := readable_of_ofDocument? hread
  refine ⟨partsReadBack_of_readable hmetadata hpools, ?_⟩
  have hwritten : ({ s with metadata := s.metadata.wholeSeconds } : Shard).toJson = s.toJson := by
    rw [toJson, toJson, ObjectMeta.toJson_wholeSeconds]
  rw [← hwritten]
  exact ofDocument?_toJson (partsReadBack_of_readable hmetadata.wholeSeconds hpools)
    s.metadata.wholeSeconds_wholeSeconds

/-- A document that leaves out most fields, gives null for others and has some that nobody knows. -/
def sampleDocument : Json := .obj [
  ("kind", .str "VitessShard"),
  ("metadata", .obj [
    ("name", .str "ks-80"), ("labels", .null), ("creationTimestamp", .str "2024-02-29T12:00:00+01:00"),
    ("deletionTimestamp", .str "2016-12-31T23:59:60Z")]),
  ("spec", .obj [
    ("name", .str "-80"), ("images", .obj [("mysqld", .null)]), ("paused", .bool true),
    ("tabletPools", .arr [.obj [
      ("cell", .str "zone1"), ("type", .str "rdonly"), ("replicas", .int 2), ("mysqld", .null),
      ("dataVolumeClaimTemplate", .obj [("accessModes", .arr [.str "ReadWriteOnce"])]),
      ("affinity", .obj [("podAffinity", .obj [])]),
      ("tolerations", .arr [.obj [("key", .str "spot"), ("since", .int 3)]])]])]),
  ("status", .obj [
    ("lowestPodGeneration", .int (-9223372036854775808)),
    ("tablets", .obj [("zone1-1", .obj [
      ("type", .str "rdonly"), ("index", .int 1), ("running", .str "True"), ("ready", .str "False"),
      ("available", .str "Unknown"), ("dataVolumeBound", .str "True"), ("lastError", .null)])])])]

/-- What is read from it. -/
def sampleRead : Shard where
  metadata := {
    name := some "ks-80"
    deletionTimestamp := Timestamp.parse? "2016-12-31T23:59:60Z"
    extra := .ofList [("creationTimestamp", .str "2024-02-29T11:00:00Z")] }
  spec := {
    name := "-80"
    tabletPools := [{
      cell := "zone1", type := .rdonly, replicas := 2
      dataVolumeClaimTemplate := some
        { extra := .ofList [("accessModes", .arr [.str "ReadWriteOnce"])] }
      affinity := some ⟨.obj [("podAffinity", .obj [])]⟩
      tolerations := [⟨.obj [("key", .str "spot")]⟩] }] }
  status := {
    tablets := .ofList [("zone1-1", {
      type := .rdonly, index := 1, running := .yes, ready := .no, available := .unknown,
      dataVolumeBound := .yes })]
    lowestPodGeneration := Int64.minValue }

theorem sample_resource_read_back :
    ofDocument? sampleDocument = some sampleRead ∧ sampleRead.PartsReadBack ∧
      sampleRead.metadata.wholeSeconds = sampleRead.metadata ∧
      ofDocument? sampleRead.toJson = some sampleRead := by
  have hread : ofDocument? sampleDocument = some sampleRead := by decide +kernel
  have hwhole : sampleRead.metadata.wholeSeconds = sampleRead.metadata := by decide +kernel
  have hparts := ((resource_round_trips (δ := Json)).2 sampleDocument sampleRead hread).1
  exact ⟨hread, hparts, hwhole, (resource_round_trips (δ := Json)).1 sampleRead hparts hwhole⟩

end Shard

end TabletFleet
