import TabletFleet.Cli.Commands
import TabletFleet.Proofs.DataVolumes
import TabletFleet.Proofs.Pass.Unwanted
import TabletFleet.Proofs.Readiness
import TabletFleet.Proofs.RecreationSettles

set_option autoImplicit false

/-! # Plans and first passes

What the plan of a shard prints is what a pass makes of it when there is nothing yet
(`Shard.first_pass_follows_plan`). Tablets of different pools may come to the same name. They are printed
one by one, but their objects are those of the last. -/

namespace TabletFleet

/-! ## The names in a plan -/

namespace Cli

/-- The name of the tablet in a row of a plan. -/
def rowName? (row : Json) : Option String :=
  match row.get? "name" with
  | some (.str name) => some name
  | _ => none

theorem rowName?_planJson (t : TabletSpec) : rowName? (planJson t) = some t.name := by
  have hname : (planJson t).get? "name" = some (.str t.name) := by
    refine OrdMap.get?_ofList_eq_some.2 ⟨[("alias", .str t.identity.text), ("type", .str t.type.name),
      ("index", .int t.index)], _, rfl, ?_⟩
    show "name" ∉ ["zone", "labels", "annotations", "extraFlags", "dataVolume"]
    decide
  rw [rowName?, hname]

/-- The names of a shard's tablets as its plan prints them, row by row. -/
def plannedNames (shard : Shard) : List String := (shard.tablets.map planJson).filterMap rowName?

theorem plannedNames_eq (shard : Shard) : plannedNames shard = shard.tablets.map (·.name) := by
  rw [plannedNames, List.filterMap_map, ← List.filterMap_eq_map]
  exact congrArg (List.filterMap · shard.tablets) (funext rowName?_planJson)

end Cli

theorem Action.failure?_createAction {K : Type} [Stored K] (object? : Option K) (key : ObjectKey)
    {rejects : Verb → Bool} (hallowed : rejects .create = false) :
    (ObjectSet.createAction object?).failure? key rejects none = none := by
  cases object? with
  | none => rfl
  | some object =>
      simp only [ObjectSet.createAction, failure?, hallowed]
      rfl

namespace Shard

/-- Of the planned tablets with its name, this is the last. -/
def LastPlanned (shard : Shard) (t : TabletSpec) : Prop :=
  ∃ earlier later, shard.tablets = earlier ++ t :: later ∧ ∀ t' ∈ later, t'.name ≠ t.name

theorem byKey_eq_some_iff {shard : Shard} {key : ObjectKey} {t : TabletSpec} :
    shard.byKey.get? key = some t ↔ shard.LastPlanned t ∧ t.key shard.ns = key := by
  rw [byKey, OrdMap.get?_ofList_map_eq_some]
  constructor
  · rintro ⟨earlier, t, later, htablets, hkey, rfl, hlast⟩
    refine ⟨⟨earlier, later, htablets, fun t' ht' hname => hlast t' ht' ?_⟩, hkey⟩
    rw [← hkey, TabletSpec.key, hname, TabletSpec.key]
  · rintro ⟨⟨earlier, later, htablets, hlast⟩, rfl⟩
    refine ⟨earlier, t, later, htablets, rfl, rfl, fun t' ht' hkey => ?_⟩
    exact hlast t' ht' (congrArg ObjectKey.name hkey)

/-! ## Calls where there is nothing -/

theorem claimAction_absent (shard : Shard) (key : ObjectKey) : shard.claimAction key none
    = ObjectSet.createAction ((shard.byKey.get? key).bind (·.newClaim? key)) := by
  unfold claimAction
  cases shard.byKey.get? key <;> rfl

theorem podAction_absent (shard : Shard) (now : Timestamp) (s : MemoryStore) (key : ObjectKey) :
    shard.podAction now s key none
      = ObjectSet.createAction ((shard.byKey.get? key).map (·.newPod key)) := by
  unfold podAction
  cases shard.byKey.get? key <;> rfl

section FirstPass

variable (shard : Shard) (topology : Topology) (config : PassConfig) (now : Timestamp)
variable (newUid : Nat → String)

/-! ## Stored objects -/

/-- The pods after a pass over nothing are the new ones of the desired tablets. -/
theorem pod_first_pass (key : ObjectKey) (p : Pod) :
    ((shard.afterPass topology config now (.empty newUid)).fetch? Pod key).map unstamped = some p ↔
      ∃ t, shard.LastPlanned t ∧ t.key shard.ns = key ∧ t.newPod key = p := by
  constructor
  · intro h
    obtain ⟨p', hp', rfl⟩ := Option.map_eq_some_iff.1 h
    cases podOrigin hp' with
    | created t n desired =>
        obtain ⟨hlast, hkey⟩ := byKey_eq_some_iff.1 desired
        refine ⟨t, hlast, hkey, ?_⟩
        rw [unstamped_storedAs]
        rfl
    | kept _ before => cases before
    | updated t p f n desired before => cases before
    | drained p n unwanted before => cases before
  · rintro ⟨t, hlast, hkey, rfl⟩
    obtain ⟨n, hafter⟩ := pod_created (w := .empty newUid) topology config now rfl
      (byKey_eq_some_iff.2 ⟨hlast, hkey⟩) rfl
    rw [hafter, Option.map_some, unstamped_storedAs]
    rfl

/-- The claims after a pass over nothing are the new ones of the desired tablets. -/
theorem claim_first_pass (key : ObjectKey) (c : Claim) :
    ((shard.afterPass topology config now (.empty newUid)).fetch? Claim key).map unstamped = some c ↔
      ∃ t, shard.LastPlanned t ∧ t.key shard.ns = key ∧ t.newClaim? key = some c := by
  constructor
  · intro h
    obtain ⟨c', hc', rfl⟩ := Option.map_eq_some_iff.1 h
    cases claimOrigin hc' with
    | created t c n desired tablet new =>
        obtain ⟨hlast, hkey⟩ := byKey_eq_some_iff.1 tablet
        refine ⟨t, hlast, hkey, ?_⟩
        obtain ⟨template, htemplate, rfl⟩ := Option.map_eq_some_iff.1 new
        rw [unstamped_storedAs, new]
        rfl
    | kept _ before => cases before
    | updated t c n tablet before => cases before
  · rintro ⟨t, hlast, hkey, hnew⟩
    obtain ⟨n, hafter⟩ := claim_created (w := .empty newUid) topology config now
      (byKey_eq_some_iff.2 ⟨hlast, hkey⟩) hnew rfl rfl
    obtain ⟨template, -, rfl⟩ := Option.map_eq_some_iff.1 hnew
    rw [hafter, Option.map_some, unstamped_storedAs]
    rfl

/-- There is one pod for every name in the plan. -/
theorem keys_pods_first_pass :
    (shard.afterPass topology config now (.empty newUid)).pods.keys.Perm
      ((Cli.plannedNames shard).eraseDups.map fun name => ⟨shard.ns, name⟩) := by
  have hpods := shard.pod_first_pass topology config now newUid
  generalize shard.afterPass topology config now (.empty newUid) = after at hpods
  have hnames : ((Cli.plannedNames shard).eraseDups.map
      fun name => (⟨shard.ns, name⟩ : ObjectKey)).Nodup :=
    (ObjectSet.nodup_eraseDups _).map fun _ _ h => congrArg ObjectKey.name h
  refine (List.perm_ext_iff_of_nodup (OrdMap.nodup_keys after.pods.entries) hnames).2 fun key => ?_
  have hstored : key ∈ after.pods.keys ↔ ∃ p, (after.fetch? Pod key).map unstamped = some p := by
    rw [← Option.isSome_iff_exists, Option.isSome_map]
    exact OrdMap.mem_keys
  have hplanned : (∃ t, shard.LastPlanned t ∧ t.key shard.ns = key) ↔ key ∈ shard.keys := by
    simp only [← byKey_eq_some_iff, ← isSome_byKey, Option.isSome_iff_exists]
  refine hstored.trans (Iff.trans ?_ (hplanned.trans ?_))
  · simp only [hpods]
    exact ⟨fun ⟨_, t, hlast, hkey, _⟩ => ⟨t, hlast, hkey⟩,
      fun ⟨t, hlast, hkey⟩ => ⟨_, t, hlast, hkey, rfl⟩⟩
  · rw [Cli.plannedNames_eq]
    simp [keys, TabletSpec.key]

/-! ## What is reported -/

theorem liveClaims_nothing (key : ObjectKey) : (shard.liveClaims now (.empty newUid)).get? key = none :=
  shard.liveClaims_eq_found now (.empty newUid) key

theorem livePods_nothing (key : ObjectKey) : (shard.livePods now (.empty newUid)).get? key = none :=
  shard.livePods_eq_found now (.empty newUid) key

/-- No call on a claim fails. -/
theorem claimFailures_first_pass : shard.claimFailures now (.empty newUid) = [] := by
  refine List.filterMap_eq_nil_iff.2 fun e hmem => ?_
  obtain ⟨-, hcall⟩ | ⟨-, c, hc, -⟩ := mem_claimPlan.1 hmem
  · rw [hcall, liveClaims_nothing, claimAction_absent]
    exact Action.failure?_createAction _ e.1 rfl
  · rw [liveClaims_nothing] at hc
    cases hc

theorem podFailure?_first_pass (key : ObjectKey) :
    shard.podFailure? now (shard.afterClaims now (.empty newUid)) key = none := by
  have hrejects := shard.rejects_afterClaims now (.empty newUid) .create key.name
  rw [podFailure?, livePods_afterClaims, livePods_nothing, podAction_absent, Action.failureIn?,
    fetch?_pod_afterClaims]
  exact Action.failure?_createAction _ key hrejects

/-- No call on a pod fails. -/
theorem podFailures_first_pass (desired : OrdMap String TabletStatus) :
    shard.podFailures topology config now (.empty newUid) desired = [] := by
  refine List.filterMap_eq_nil_iff.2 fun e hmem => ?_
  obtain ⟨-, hcall⟩ | ⟨-, p, hp, -⟩ := mem_podPlan.1 hmem
  · rw [hcall]
    exact shard.podFailure?_first_pass now newUid e.1
  · rw [livePods_afterClaims, livePods_nothing] at hp
    cases hp

theorem podEntry_first_pass {key : ObjectKey} {t : TabletSpec} (ht : shard.byKey.get? key = some t)
    (entry : TabletStatus) :
    shard.podEntry now (shard.afterClaims now (.empty newUid)) key entry
      = entry.notRunning.observePod (t.newPod key) now := by
  have htold : shard.podTold now (shard.afterClaims now (.empty newUid)) key = some (t.newPod key) := by
    rw [podTold, livePods_afterClaims, livePods_nothing, podAction_absent, ht,
      podFailure?_first_pass]
    rfl
  rw [podEntry, htold, podFailure?_first_pass, livePods_afterClaims, livePods_nothing]
  rfl

theorem dataVolumeBound_first_pass {key : ObjectKey} (hkey : key ∈ shard.claimKeys)
    (entry : TabletStatus) : (shard.claimEntry now (.empty newUid) key entry).dataVolumeBound = .no := by
  have hallowed : (Action.failureIn? (ObjectSet.createAction
      ((shard.byKey.get? key).bind (·.newClaim? key))) key (.empty newUid)) = none :=
    Action.failure?_createAction _ key rfl
  rw [claimEntry, if_pos hkey, liveClaims_nothing, claimAction_absent]
  dsimp only
  rw [hallowed]
  cases hnew : (shard.byKey.get? key).bind (·.newClaim? key) with
  | none => rfl
  | some c =>
      obtain ⟨t, -, hc⟩ := Option.bind_eq_some_iff.1 hnew
      obtain ⟨template, -, rfl⟩ := Option.map_eq_some_iff.1 hc
      rfl

theorem reported_first_pass {t : TabletSpec} (ht : t ∈ shard.tablets) :
    ∃ entry, (shard.reportedTablets topology config now (.empty newUid)).get? t.identity.text = some entry ∧
      entry.running = .no ∧ entry.ready = .no ∧ entry.available = .no ∧
      (t.key shard.ns ∈ shard.claimKeys → entry.dataVolumeBound = .no) := by
  obtain ⟨entry, hentry⟩ := exists_reported topology config now (.empty newUid) ht
  have hreported := reported_entry topology config now (.empty newUid) (textAt_of_mem ht)
  obtain ⟨last, hlast⟩ := exists_byKey (List.mem_map_of_mem ht)
  rw [hentry] at hreported
  obtain ⟨claimed, hclaimed, rfl⟩ := Option.map_eq_some_iff.1 hreported.symm
  obtain ⟨blank, -, rfl⟩ := Option.map_eq_some_iff.1 hclaimed
  refine ⟨_, hentry, ?_⟩
  rw [shard.podEntry_first_pass now newUid hlast]
  -- a new pod has no status yet
  exact ⟨rfl, rfl, rfl, fun hkey => shard.dataVolumeBound_first_pass now newUid hkey blank⟩

theorem result_first_pass : (shard.reconcileAt topology config now (.empty newUid)).1.result = {} := by
  have hrequeue := (shard.requeueAfter_eq topology config now (.empty newUid)).2
  have hnotes := shard.reported_sideNotes topology config now (.empty newUid)
  have hwaits : ¬SomeWaits (shard.reportedTablets topology config now (.empty newUid)) := by
    rintro ⟨text, entry, hentry, hready, -⟩
    obtain ⟨t, ht, rfl⟩ := shard.tablet_of_reported topology config now (.empty newUid) hentry
    obtain ⟨entry', hentry', -, hnotReady, -⟩ := shard.reported_first_pass topology config now newUid ht
    obtain rfl := Option.some.inj (hentry.symm.trans hentry')
    rw [hready] at hnotReady
    cases hnotReady
  specialize hrequeue hwaits
  rw [requeueAfter] at hrequeue
  generalize (shard.reconcileAt topology config now (.empty newUid)).1 = report at hrequeue hnotes ⊢
  obtain ⟨-, -, herrors⟩ := hnotes
  rw [claimFailures_first_pass, podFailures_first_pass] at herrors
  generalize report.result = result at hrequeue herrors ⊢
  obtain ⟨requeueAfter, errors⟩ := result
  obtain rfl : requeueAfter = none := hrequeue
  obtain rfl : errors = [] := herrors
  rfl

end FirstPass

/-- *Plan and first pass agree.* When nothing is stored and nothing rejected, a pass stores one pod for
every name that the plan prints, and for those whose tablets have a data volume a claim. They are the new
ones of the last planned tablet with the name, stamps apart. Beside them it stores nothing, and it reports
no error and does not ask to be repeated. Every tablet is reported as not running, not ready and not
available, and its data volume, if it is to have one, as not bound. -/
theorem first_pass_follows_plan (shard : Shard) (topology : Topology) (config : PassConfig)
    (now : Timestamp) (newUid : Nat → String) :
    let after := shard.afterPass topology config now (.empty newUid)
    after.pods.keys.Perm ((Cli.plannedNames shard).eraseDups.map fun name => ⟨shard.ns, name⟩) ∧
    (∀ key p, (after.fetch? Pod key).map unstamped = some p ↔
      ∃ t, shard.LastPlanned t ∧ t.key shard.ns = key ∧ t.newPod key = p) ∧
    (∀ key c, (after.fetch? Claim key).map unstamped = some c ↔
      ∃ t, shard.LastPlanned t ∧ t.key shard.ns = key ∧ t.newClaim? key = some c) ∧
    after.configMaps = .empty ∧
    (shard.reconcileAt topology config now (.empty newUid)).1.result = {} ∧
    ∀ t ∈ shard.tablets, ∃ entry,
      (shard.reportedTablets topology config now (.empty newUid)).get? t.identity.text = some entry ∧
      entry.running = .no ∧ entry.ready = .no ∧ entry.available = .no ∧
      ∀ last, shard.LastPlanned last → last.name = t.name → last.claimTemplate.isSome = true →
        entry.dataVolumeBound = .no := by
  intro after
  refine ⟨shard.keys_pods_first_pass topology config now newUid,
    shard.pod_first_pass topology config now newUid, shard.claim_first_pass topology config now newUid,
    shard.configMaps_afterPass topology config now (.empty newUid),
    shard.result_first_pass topology config now newUid, fun t ht => ?_⟩
  obtain ⟨entry, hentry, hrunning, hready, havailable, hbound⟩ :=
    shard.reported_first_pass topology config now newUid ht
  refine ⟨entry, hentry, hrunning, hready, havailable, fun last hlast hname htemplate => hbound ?_⟩
  have hkey : last.key shard.ns = t.key shard.ns := congrArg (ObjectKey.mk shard.ns) hname
  obtain ⟨hmem, -⟩ := of_byKey (byKey_eq_some_iff.2 ⟨hlast, hkey⟩)
  exact mem_claimKeys_iff.2 ⟨last, hmem, htemplate, hkey⟩

/-- Two pools that come to the same name are printed one by one, but have one pod. -/
example : let pools := (sample 1).spec.tabletPools
    let shard := { sample 1 with spec := { (sample 1).spec with tabletPools := pools ++ pools } }
    (Cli.plannedNames shard).length = 2 ∧
      (shard.afterPass .sample {} .sample .sample).pods.keys.length = 1 := by
  decide +kernel

end Shard

end TabletFleet
