import TabletFleet.Proofs.OrdMap
import TabletFleet.Proofs.Tablet.Places
import TabletFleet.Tablet.Objects

set_option autoImplicit false

/-! # Which setting counts

The settings of a tablet come in layers, with keys of the user's choice in all of them, and merging puts a
layer over those below it. So the value at a key is that of the topmost layer which has the key
(`OrdMap.topmost?`). The flags that a tablet is started with are a layer below the user's, of which some are
there only under conditions (`Shard.EngineFlag`); they are given in the order of their names, each once. -/

namespace TabletFleet

/-! ## Layers -/

/-- The value at a key in the first of the maps that has one. -/
def OrdMap.topmost? {κ α : Type} [Ord κ] (layers : List (OrdMap κ α)) (k : κ) : Option α :=
  layers.findSome? (·.get? k)

namespace OrdMap

variable {κ α : Type} [Ord κ]

theorem topmost?_cons (m : OrdMap κ α) (layers : List (OrdMap κ α)) (k : κ) :
    topmost? (m :: layers) k = (m.get? k).or (topmost? layers k) := by
  rw [topmost?, List.findSome?_cons]
  cases m.get? k <;> rfl

theorem topmost?_singleton (m : OrdMap κ α) (k : κ) : topmost? [m] k = m.get? k := by
  rw [topmost?_cons]
  exact Option.or_none

variable [Std.TransOrd κ] [Std.LawfulEqOrd κ]

/-- Merging puts the second map over the first. -/
theorem topmost?_merge (dst src : OrdMap κ α) (layers : List (OrdMap κ α)) (k : κ) :
    topmost? (dst.merge src :: layers) k = topmost? (src :: dst :: layers) k := by
  simp only [topmost?_cons, get?_merge, Option.or_assoc]

/-- Added entries lie over the map that they are added to. -/
theorem topmost?_insertMany [DecidableEq κ] (m : OrdMap κ α) (l : List (κ × α))
    (layers : List (OrdMap κ α)) (k : κ) :
    topmost? (m.insertMany l :: layers) k = topmost? (ofList l :: m :: layers) k := by
  simp only [topmost?_cons, get?_insertMany, Option.or_assoc]

end OrdMap

/-! ## What a tablet asks for itself -/

namespace TabletSpec

/-- The labels that tell the tablet from others. -/
def ownLabels (t : TabletSpec) : StringMap :=
  .ofList [
    (LabelKey.cell, t.identity.cell), (LabelKey.tabletUid, toString t.identity.uid.toNat),
    (LabelKey.tabletType, t.type.name), (LabelKey.tabletIndex, toString t.index)]

/-- The flags that the tablet itself asks for. -/
def ownFlags (t : TabletSpec) : List (String × String) :=
  let identity := [
    ("tablet-path", t.identity.text), ("init_keyspace", t.keyspace), ("init_shard", t.shardName),
    ("init_tablet_type", t.type.initName)]
  let topology :=
    if t.globalLockserver.address.isEmpty then []
    else [
      ("topo_implementation", t.globalLockserver.implementation),
      ("topo_global_server_address", t.globalLockserver.address),
      ("topo_global_root", t.globalLockserver.rootPath)]
  let database :=
    if t.databaseName.isEmpty then [] else [("init_db_name_override", t.databaseName)]
  let backup :=
    match t.backupLocation.bind (·.storageRoot) with
    | none => []
    | some root => [("backup_storage_root", root)]
  identity ++ topology ++ database ++ backup

theorem flags_eq (t : TabletSpec) : t.flags = (OrdMap.ofList t.ownFlags).merge t.extraFlags := rfl

/-- No flag is asked for twice, because those that a tablet may ask for all have different names. -/
theorem nodup_names_ownFlags (t : TabletSpec) : (t.ownFlags.map (·.1)).Nodup := by
  have hnames : (t.ownFlags.map (·.1)).Sublist
      (["tablet-path", "init_keyspace", "init_shard", "init_tablet_type"] ++
        ["topo_implementation", "topo_global_server_address", "topo_global_root"] ++
        ["init_db_name_override"] ++ ["backup_storage_root"]) := by
    simp only [ownFlags, List.map_append]
    refine ((List.Sublist.append (List.Sublist.refl _) ?_).append ?_).append ?_
    all_goals
      split
      · exact List.nil_sublist _
      · exact List.Sublist.refl _
  exact List.Nodup.sublist hnames (by decide)

/-- A flag is given its value by the user, or else by the tablet itself. -/
theorem mem_flags_iff {t : TabletSpec} {name value : String} : (name, value) ∈ t.flags.toList ↔
    t.extraFlags.get? name = some value ∨
      t.extraFlags.get? name = none ∧ (name, value) ∈ t.ownFlags := by
  rw [OrdMap.mem_toList, flags_eq, OrdMap.get?_merge, Option.or_eq_some_iff,
    OrdMap.get?_ofList_of_nodup t.nodup_names_ownFlags]

theorem ascending_flags (t : TabletSpec) : t.flags.toList.Pairwise fun a b => a.1 < b.1 :=
  t.flags.sorted.imp fun h => compareOfLessAndEq_eq_lt.1 h

/-- One container of the tablet's pod runs the tablet process. -/
theorem vttabletProcess_only (t : TabletSpec) :
    t.podSpec.containers.filter (·.name = vttabletContainer) = [t.vttabletProcess] := by
  have hown : t.vttabletProcess.name = vttabletContainer := rfl
  have hother : ∀ c ∈ t.mysqldProcess?.toList, ¬decide (c.name = vttabletContainer) = true := by
    intro c hc
    obtain ⟨settings, -, hc⟩ := Option.bind_eq_some_iff.1 (Option.mem_toList.1 hc)
    obtain ⟨image, -, hc⟩ := Option.bind_eq_some_iff.1 hc
    obtain rfl := Option.some.inj hc
    exact of_decide_eq_false rfl
  rw [podSpec, List.filter_cons_of_pos (by simp [hown]), List.filter_eq_nil_iff.2 hother]

end TabletSpec

namespace Shard

/-! ## What a pool's settings are resolved to -/

/-- Of the shard's backup locations with the name, this is the first. -/
def FirstNamed (s : Shard) (name : String) (location : BackupLocation) : Prop :=
  ∃ earlier later, s.spec.backupLocations = earlier ++ location :: later ∧ location.name = name ∧
    ∀ other ∈ earlier, other.name ≠ name

theorem backupLocation?_eq_some_iff {s : Shard} {name : String} {location : BackupLocation} :
    s.backupLocation? name = some location ↔ s.FirstNamed name location := by
  rw [backupLocation?, List.find?_eq_some_iff_append]
  simp only [FirstNamed, beq_iff_eq, Bool.not_eq_true', beq_eq_false_iff_ne]
  constructor
  · rintro ⟨hname, earlier, later, hsplit, hearlier⟩
    exact ⟨earlier, later, hsplit, hname, hearlier⟩
  · rintro ⟨earlier, later, hsplit, hname, hearlier⟩
    exact ⟨hname, earlier, later, hsplit, hearlier⟩

/-- What the tablet of a pool with the given alias is started with unless the user says otherwise. -/
inductive EngineFlag (s : Shard) (pool : TabletPool) (tablet : TabletAlias) : String → String → Prop where
  | path : EngineFlag s pool tablet "tablet-path" tablet.text
  | keyspace : EngineFlag s pool tablet "init_keyspace" s.keyspaceName
  | shard : EngineFlag s pool tablet "init_shard" s.spec.name
  | type : EngineFlag s pool tablet "init_tablet_type" pool.type.initName
  | topologyImplementation (known : s.spec.globalLockserver.address ≠ "") :
      EngineFlag s pool tablet "topo_implementation" s.spec.globalLockserver.implementation
  | topologyAddress (known : s.spec.globalLockserver.address ≠ "") :
      EngineFlag s pool tablet "topo_global_server_address" s.spec.globalLockserver.address
  | topologyRoot (known : s.spec.globalLockserver.address ≠ "") :
      EngineFlag s pool tablet "topo_global_root" s.spec.globalLockserver.rootPath
  | database (named : s.spec.databaseName ≠ "") :
      EngineFlag s pool tablet "init_db_name_override" s.spec.databaseName
  | backup (location : BackupLocation) (root : String)
      (named : s.FirstNamed pool.backupLocationName location)
      (stored : location.storageRoot = some root) :
      EngineFlag s pool tablet "backup_storage_root" root

theorem mem_ownFlags_iff {s : Shard} {parentLabels : StringMap} {pool : TabletPool} {t : TabletSpec}
    (ht : t ∈ s.poolTablets parentLabels pool) {name value : String} :
    (name, value) ∈ t.ownFlags ↔ s.EngineFlag pool t.identity name value := by
  obtain ⟨i, -, rfl⟩ := mem_poolTablets_iff.1 ht
  simp only [TabletSpec.ownFlags, List.mem_append]
  constructor
  · rintro (((hmem | hmem) | hmem) | hmem)
    · simp only [List.mem_cons, Prod.mk.injEq, List.not_mem_nil, or_false] at hmem
      rcases hmem with ⟨rfl, rfl⟩ | ⟨rfl, rfl⟩ | ⟨rfl, rfl⟩ | ⟨rfl, rfl⟩
      · exact .path
      · exact .keyspace
      · exact .shard
      · exact .type
    · obtain ⟨hknown, hmem⟩ := List.mem_ite_nil_left.1 hmem
      rw [String.isEmpty_iff] at hknown
      simp only [List.mem_cons, Prod.mk.injEq, List.not_mem_nil, or_false] at hmem
      rcases hmem with ⟨rfl, rfl⟩ | ⟨rfl, rfl⟩ | ⟨rfl, rfl⟩
      · exact .topologyImplementation hknown
      · exact .topologyAddress hknown
      · exact .topologyRoot hknown
    · obtain ⟨hnamed, hmem⟩ := List.mem_ite_nil_left.1 hmem
      rw [String.isEmpty_iff] at hnamed
      obtain ⟨rfl, rfl⟩ := Prod.mk.inj (List.mem_singleton.1 hmem)
      exact .database hnamed
    · split at hmem
      · cases hmem
      · next root hroot =>
          obtain ⟨location, hlocation, hstored⟩ := Option.bind_eq_some_iff.1 hroot
          obtain ⟨rfl, rfl⟩ := Prod.mk.inj (List.mem_singleton.1 hmem)
          exact .backup location _ (backupLocation?_eq_some_iff.1 hlocation) hstored
  · intro hflag
    cases hflag with
    | path => simp [tablet]
    | keyspace => simp [tablet]
    | shard => simp [tablet]
    | type => simp [tablet]
    | topologyImplementation known => simp [tablet, known]
    | topologyAddress known => simp [tablet, known]
    | topologyRoot known => simp [tablet, known]
    | database named => simp [tablet, named]
    | backup location root named stored =>
        simp [tablet, backupLocation?_eq_some_iff.2 named, stored]

/-! ## Layers of a tablet's settings -/

section Tablet

variable {s : Shard} {parentLabels : StringMap} {pool : TabletPool} {t : TabletSpec}

theorem get?_extraFlags (ht : t ∈ s.poolTablets parentLabels pool) (k : String) :
    t.extraFlags.get? k =
      OrdMap.topmost? [pool.vttablet.extraFlags, s.spec.extraVitessFlags] k := by
  obtain ⟨i, -, rfl⟩ := mem_poolTablets_iff.1 ht
  rw [← OrdMap.topmost?_singleton, tablet, OrdMap.topmost?_merge]

theorem get?_annotations (ht : t ∈ s.poolTablets parentLabels pool) (k : String) :
    t.annotations.get? k =
      OrdMap.topmost? ((t.backupLocation.map (·.annotations)).toList ++
        [pool.annotations, .ofList [(AnnotationKey.drainSupported, drainPurpose)]]) k := by
  obtain ⟨i, -, rfl⟩ := mem_poolTablets_iff.1 ht
  rw [← OrdMap.topmost?_singleton]
  simp only [tablet, poolAnnotations]
  cases s.backupLocation? pool.backupLocationName with
  | none => exact OrdMap.topmost?_merge _ _ _ k
  | some location =>
      rw [OrdMap.topmost?_merge, OrdMap.topmost?_cons, OrdMap.topmost?_merge,
        ← OrdMap.topmost?_cons]
      rfl

theorem get?_objectLabels (ht : t ∈ s.poolTablets parentLabels pool) (k : String) :
    t.objectLabels.get? k = OrdMap.topmost? [t.ownLabels, parentLabels, pool.extraLabels] k := by
  obtain ⟨i, -, rfl⟩ := mem_poolTablets_iff.1 ht
  rw [← OrdMap.topmost?_singleton, TabletSpec.objectLabels, OrdMap.topmost?_merge, tablet,
    tabletLabels, OrdMap.topmost?_insertMany]
  rfl

end Tablet

/-! ## From the shard to the process -/

open TabletSpec in
/-- Where each setting of a pool's tablet comes from. -/
structure Resolves (s : Shard) (parentLabels : StringMap) (pool : TabletPool) (t : TabletSpec) :
    Prop where
  cell : t.identity.cell = pool.cell
  type : t.type = pool.type
  /-- The pool's flags lie over those of the shard. -/
  extraFlags : ∀ k, t.extraFlags.get? k =
    OrdMap.topmost? [pool.vttablet.extraFlags, s.spec.extraVitessFlags] k
  backupLocation : ∀ location,
    t.backupLocation = some location ↔ s.FirstNamed pool.backupLocationName location
  /-- The backup location's annotations lie over the pool's, and those over the drain marker. -/
  annotations : ∀ k, t.annotations.get? k =
    OrdMap.topmost? ((t.backupLocation.map (·.annotations)).toList ++
      [pool.annotations, .ofList [(AnnotationKey.drainSupported, drainPurpose)]]) k
  /-- What says which tablet it is lies over what it shares with others, and both over the user's. -/
  podLabels : ∀ key, ∃ labels, (t.newPod key).metadata.labels = some labels ∧
    ∀ k, labels.get? k = OrdMap.topmost? [t.ownLabels, parentLabels, pool.extraLabels] k
  claimLabels : ∀ key claim, t.newClaim? key = some claim →
    ∃ labels, claim.metadata.labels = some labels ∧
      ∀ k, labels.get? k = OrdMap.topmost? [t.ownLabels, parentLabels, pool.extraLabels] k
  /-- The one tablet process of the pod is given each flag once. -/
  arguments : ∃ flags : List (String × String),
    (∀ key, ∃ podSpec, (t.newPod key).spec = some podSpec ∧
      (podSpec.containers.filter (·.name = vttabletContainer)).map (·.args) =
        [some (flags.map fun e => "--" ++ e.1 ++ "=" ++ e.2)]) ∧
    flags.Pairwise (fun a b => a.1 < b.1) ∧
    ∀ name value, (name, value) ∈ flags ↔
      t.extraFlags.get? name = some value ∨
        t.extraFlags.get? name = none ∧ s.EngineFlag pool t.identity name value

/-- *Which setting counts, from the shard to the process.* A shard's tablets are those of its pools. The user's
flags of each are the pool's over the shard's; its annotations are those of the first backup location with
the pool's location name, over the pool's, over the drain marker; the labels of its pod and of its claim are
its own, over those that it shares with others, over the user's. The tablet process is given one argument
for each flag that the user or the tablet itself asks for, in the order of the flags' names, and the user's
value counts. -/
theorem setting_precedence (s : Shard) (parentLabels : StringMap) :
    (∀ t, t ∈ s.tabletsWith parentLabels ↔
      ∃ pool ∈ s.spec.tabletPools, t ∈ s.poolTablets parentLabels pool) ∧
    ∀ pool ∈ s.spec.tabletPools, ∀ t ∈ s.poolTablets parentLabels pool,
      s.Resolves parentLabels pool t := by
  refine ⟨fun t => mem_tabletsWith_iff, fun pool _ t ht => ?_⟩
  have hlabels := get?_objectLabels ht
  obtain ⟨i, -, htablet⟩ := mem_poolTablets_iff.1 ht
  refine {
    cell := htablet ▸ rfl
    type := htablet ▸ rfl
    extraFlags := get?_extraFlags ht
    backupLocation := fun location => ?_
    annotations := get?_annotations ht
    podLabels := fun key => ⟨t.objectLabels, rfl, hlabels⟩
    claimLabels := fun key claim hclaim => ?_
    arguments := ⟨t.flags.toList, fun key => ⟨t.podSpec, rfl, ?_⟩, t.ascending_flags, ?_⟩ }
  · rw [← backupLocation?_eq_some_iff, ← htablet]
    rfl
  · obtain ⟨template, -, rfl⟩ := Option.map_eq_some_iff.1 hclaim
    exact ⟨t.objectLabels, rfl, hlabels⟩
  · rw [t.vttabletProcess_only]
    rfl
  · intro name value
    rw [TabletSpec.mem_flags_iff, mem_ownFlags_iff ht]

/-- A pool whose settings get in the way of others in every layer. -/
def samplePool : TabletPool :=
  { TabletPool.sample .replica 1 with
    vttablet := { extraFlags := .ofList [("init_shard", "chosen"), ("verbosity", "2")] }
    annotations := .ofList [(AnnotationKey.drainSupported, "by the pool"), ("owner", "pool")]
    extraLabels := .ofList [(LabelKey.cell, "elsewhere"), ("owner", "user"), ("tier", "user")] }

/-- A shard with the pool, and with two backup locations that have no name. -/
def sampleLayered : Shard where
  spec := {
    name := "-"
    extraVitessFlags := .ofList [("verbosity", "1"), ("lang", "en")]
    tabletPools := [samplePool]
    backupLocations := [
      { storageRoot := some "/first", annotations := .ofList [("owner", "backup")] },
      { storageRoot := some "/second" }] }

def sampleParentLabels : StringMap := .ofList [(LabelKey.tabletIndex, "9"), ("owner", "parent")]

theorem sample_settings_resolved :
    ∃ t ∈ sampleLayered.tabletsWith sampleParentLabels,
      t.extraFlags.get? "verbosity" = some "2" ∧ t.extraFlags.get? "lang" = some "en" ∧
      t.annotations.get? "owner" = some "backup" ∧
      t.annotations.get? AnnotationKey.drainSupported = some "by the pool" ∧
      (∀ key, ∃ labels, (t.newPod key).metadata.labels = some labels ∧
        labels.get? LabelKey.cell = some "zone1" ∧ labels.get? LabelKey.tabletIndex = some "1" ∧
        labels.get? "owner" = some "parent" ∧ labels.get? "tier" = some "user") ∧
      ∃ flags : List (String × String), flags.Pairwise (fun a b => a.1 < b.1) ∧
        ("init_shard", "chosen") ∈ flags ∧ ("init_shard", "-") ∉ flags ∧
        ("backup_storage_root", "/first") ∈ flags ∧
        ∀ value, ("init_db_name_override", value) ∉ flags := by
  have ⟨hcompiled, hresolves⟩ := setting_precedence sampleLayered sampleParentLabels
  have hpool : samplePool ∈ sampleLayered.spec.tabletPools := List.mem_singleton.2 rfl
  have ht : sampleLayered.tablet sampleParentLabels samplePool 1 ∈
      sampleLayered.poolTablets sampleParentLabels samplePool :=
    mem_poolTablets_iff.2 ⟨0, by decide, rfl⟩
  obtain ⟨-, -, hflags, -, hannotations, hlabels, -, flags, -, hascending, hmem⟩ :=
    hresolves samplePool hpool _ ht
  have hchosen : (sampleLayered.tablet sampleParentLabels samplePool 1).extraFlags.get?
      "init_shard" = some "chosen" := by
    rw [hflags]
    decide
  have hunset : (sampleLayered.tablet sampleParentLabels samplePool 1).extraFlags.get?
      "init_db_name_override" = none := by
    rw [hflags]
    decide
  refine ⟨_, (hcompiled _).2 ⟨samplePool, hpool, ht⟩, ?_, ?_, ?_, ?_, fun key => ?_,
    flags, hascending, ?_, ?_, ?_, fun value => ?_⟩
  · rw [hflags]
    decide
  · rw [hflags]
    decide
  · rw [hannotations]
    decide
  · rw [hannotations]
    decide
  · obtain ⟨labels, hlabels, hget⟩ := hlabels key
    refine ⟨labels, hlabels, ?_, ?_, ?_, ?_⟩
    all_goals
      rw [hget]
      decide
  · exact (hmem _ _).2 (.inl hchosen)
  · rw [hmem]
    rintro (hother | ⟨hnone, -⟩)
    · exact absurd (hchosen.symm.trans hother) (by decide)
    · exact absurd (hchosen.symm.trans hnone) (by decide)
  · refine (hmem _ _).2 (.inr ⟨by decide, .backup _ _ ⟨[], _, rfl, rfl, ?_⟩ rfl⟩)
    exact fun other hother => nomatch hother
  · rw [hmem]
    rintro (hgiven | ⟨-, hengine⟩)
    · exact absurd (hunset.symm.trans hgiven) nofun
    · generalize hname : "init_db_name_override" = name at hengine
      cases hengine with
      | database named => exact named rfl
      | _ => exact absurd hname (by decide)

end Shard

end TabletFleet
