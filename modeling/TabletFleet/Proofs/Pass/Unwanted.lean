import TabletFleet.Proofs.Pass.Entries

set_option autoImplicit false

/-! # Notes beside the desired tablets

Of unwanted tablets a pass notes those whose pods are refused, and their cells. Of failures it notes one
error for each kind of object with calls that failed (`Shard.reported_sideNotes`). Unwanted pods are judged
by the entries of the desired tablets, which are final by then; so both can be told from the report and
from what the pass finds. -/

namespace TabletFleet

open ManagedObject (key?)
open StateRun

/-! ## Visits to unwanted pods -/

namespace Shard

variable (shard : Shard) (topology : Topology) (config : PassConfig)
variable (desired : OrdMap String TabletStatus)

/-- The cells and the unwanted tablets that have been noted, once another pod has been visited. -/
def noteUnwanted (notes : List String × OrdMap String OrphanStatus) (e : ObjectKey × Pod) :
    List String × OrdMap String OrphanStatus :=
  match shard.refusal? topology config desired e.2 with
  | none => notes
  | some why =>
    (((TabletAlias.ofLabels? e.2.metadata.labels).map (·.cell)).toList ++ notes.1,
      notes.2.insert (e.2.orphanName e.1) why)

variable {shard topology config desired}

end Shard

section Pods

variable {shard : Shard} {topology : Topology} {config : PassConfig} {now : Timestamp}
variable {w : MemoryStore} {s : PassState MemoryStore} {key : ObjectKey}

/-- The visits to desired pods, with what they leave beside the entries of their tablets. -/
def desiredVisits (shard : Shard) (w : MemoryStore) :
    Visits (PassState MemoryStore) ObjectKey ObjectKey
      (List String × OrdMap String OrphanStatus × List ReconcileError)
      (Option TabletSpec × Option Pod) where
  keyOf := id
  Inv := PodsVisited shard w
  world := (·.sideNotes)
  effect _ := id
  view key s := (s.tablets.get? key, s.world.fetch? Pod key)
  after _ _ := True

theorem desiredVisits_step (topology : Topology) (config : PassConfig) (h : PodsVisited shard w s)
    (hkey : key ∈ shard.keys)
    (hview : (desiredVisits shard w).view key s = (shard.byKey.get? key, w.fetch? Pod key)) :
    let visit := ObjectSet.visitDesired (passCalls Pod)
      (podStrategy (shard.input topology config now)) (shard.objectSet now shard.keys)
      (shard.livePods now w)
    (desiredVisits shard w).Step visit key s ∧
      (visit key s).1.failure = shard.podFailure? now w key := by
  intro visit
  rw [desiredVisits, Prod.mk.injEq] at hview
  obtain ⟨htablet, hstored⟩ := hview
  have hfits : (shard.podAction now w key ((shard.livePods now w).get? key)).Fits key :=
    Shard.podAction_fits fun p hp => w.pods.keyed (Shard.get?_livePods.1 hp).1
  have hvisited := visitDesired_pod topology config now h hkey htablet (shard.livePods now w)
  obtain ⟨hfailure, -, -, -, hnotes⟩ := reports_visitDesired_pod topology config now h hkey htablet
    hstored
  refine ⟨⟨⟨hvisited.entered, ?_, ?_⟩, hnotes, trivial, fun k (hk : k ≠ key) => ?_⟩, hfailure⟩
  · rw [hvisited.world, Action.claims_perform hfits, h.claims]
  · rw [hvisited.world, Action.rejections_perform hfits, h.rejections]
  · refine Prod.ext (hvisited.tablets k hk) ?_
    dsimp only [desiredVisits]
    rw [hvisited.world, Action.fetch?_perform hfits, if_neg hk]

/-- The visits to unwanted pods, given the entries that these are judged by. -/
def unwantedVisits (shard : Shard) (topology : Topology) (config : PassConfig)
    (desired : OrdMap String TabletStatus) (errors : List ReconcileError) (w : MemoryStore) :
    Visits (PassState MemoryStore) (ObjectKey × Pod) ObjectKey
      (List String × OrdMap String OrphanStatus) (Option Pod) where
  keyOf := Prod.fst
  Inv s := s.Entered shard ∧ s.status.tablets = desired ∧ s.result.errors = errors ∧
    s.world.rejections = w.rejections
  world s := (s.cells, s.status.orphanedTablets)
  effect e notes := shard.noteUnwanted topology config desired notes e
  view key s := s.world.fetch? Pod key
  after _ _ := True

theorem unwantedVisits_step {desired : OrdMap String TabletStatus} {errors : List ReconcileError}
    {e : ObjectKey × Pod} (h : (unwantedVisits shard topology config desired errors w).Inv s)
    (hkey : e.1 ∉ shard.keys) (hp : key? e.2 = some e.1)
    (hview : s.world.fetch? Pod e.1 = w.fetch? Pod e.1) :
    let visit := fun e : ObjectKey × Pod => ObjectSet.turnDown (passCalls Pod)
      (podStrategy (shard.input topology config now)) e.1 e.2
    (unwantedVisits shard topology config desired errors w).Step visit e s ∧
      (visit e s).1.failure
        = (shard.podTurnDown topology config desired e.2).failureIn? e.1 w := by
  intro visit
  obtain ⟨hentered, rfl, rfl, hrejections⟩ := h
  let a := shard.podTurnDown topology config s.status.tablets e.2
  have hfits : a.Fits e.1 := Shard.podTurnDown_fits hp
  obtain ⟨hfailure, hstate⟩ := turnDown_pod_eq topology config now hentered hkey hp
  obtain ⟨cells, orphanedTablets, hnoted⟩ := (s.act a e.1).noteRefusal_eq e.1 e.2
    (shard.refusal? topology config s.status.tablets e.2)
  refine ⟨⟨?_, ?_, trivial, fun k hk => ?_⟩,
    hfailure.trans (a.failureIn?_of_unchanged hrejections hview)⟩
  · rw [show (visit e s).2 = _ from hstate, hnoted]
    exact ⟨⟨hentered.texts, hentered.entries⟩, rfl, rfl,
      (Action.rejections_perform hfits s.world).trans hrejections⟩
  · rw [show (visit e s).2 = _ from hstate]
    dsimp only [unwantedVisits]
    unfold PassState.noteRefusal Shard.noteUnwanted
    cases shard.refusal? topology config s.status.tablets e.2 <;> rfl
  · rw [show (visit e s).2 = _ from hstate, hnoted]
    exact (Action.fetch?_perform hfits s.world k).trans (if_neg hk)

variable (topology config now) in
/-- Once the desired pods have been visited, nothing has been noted of unwanted ones, and none of them has
been touched. -/
theorem desired_pods_visited (hentered : s.Entered shard) (htablets : s.tablets = shard.byKey) :
    let visited := shard.keys.eraseDups.mapM (ObjectSet.visitDesired (passCalls Pod)
      (podStrategy (shard.input topology config now)) (shard.objectSet now shard.keys)
      (shard.livePods now s.world)) s
    PodsVisited shard s.world visited.2 ∧ visited.2.sideNotes = s.sideNotes ∧
      visited.1.map (·.failure) = shard.keys.eraseDups.map (shard.podFailure? now s.world) ∧
      ∀ key, key ∉ shard.keys → visited.2.world.fetch? Pod key = s.world.fetch? Pod key := by
  intro visited
  let visit := ObjectSet.visitDesired (passCalls Pod) (podStrategy (shard.input topology config now))
    (shard.objectSet now shard.keys) (shard.livePods now s.world)
  let v := desiredVisits shard s.world
  have hinv : v.Inv s := ⟨hentered, rfl, rfl⟩
  have hkeys : shard.keys.eraseDups.map v.keyOf = shard.keys.eraseDups := List.map_id _
  have hnodup : (shard.keys.eraseDups.map v.keyOf).Nodup := by
    rw [hkeys]
    exact ObjectSet.nodup_eraseDups _
  have hstep : ∀ key ∈ shard.keys.eraseDups, ∀ t, v.Inv t →
      v.view (v.keyOf key) t = v.view (v.keyOf key) s →
      v.Step visit key t ∧ (visit key t).1.failure = shard.podFailure? now s.world key :=
    fun key hmem t ht hview => desiredVisits_step topology config ht (List.mem_eraseDups.1 hmem)
      (hview.trans (congrArg (fun m => (OrdMap.get? m key, s.world.fetch? Pod key)) htablets))
  obtain ⟨hend, hnotes, -, hframe⟩ := mapM_visits hinv hnodup fun key hmem t ht hview =>
    (hstep key hmem t ht hview).1
  refine ⟨hend, hnotes.trans (List.foldl_fixed' (fun _ => rfl) _),
    mapM_answers Visit.failure _ hinv hnodup hstep, fun key hkey => ?_⟩
  have hnot : key ∉ shard.keys.eraseDups.map v.keyOf := by
    rw [hkeys, List.mem_eraseDups]
    exact hkey
  exact congrArg Prod.snd (hframe key hnot)

variable (topology config now) in
/-- Once the unwanted pods have been visited too, those that are refused have been noted. -/
theorem unwanted_pods_visited (h : PodsVisited shard w s)
    (hstored : ∀ key, key ∉ shard.keys → s.world.fetch? Pod key = w.fetch? Pod key) :
    let unwanted := (shard.objectSet now shard.keys).unwanted (shard.livePods now w)
    let desired := s.status.tablets
    let visited := unwanted.mapM (fun e => ObjectSet.turnDown (passCalls Pod)
      (podStrategy (shard.input topology config now)) e.1 e.2) s
    visited.2.status.tablets = desired ∧ visited.2.result.errors = s.result.errors ∧
      (visited.2.cells, visited.2.status.orphanedTablets) = unwanted.foldl
        (shard.noteUnwanted topology config desired) (s.cells, s.status.orphanedTablets) ∧
      visited.1.map (·.failure) = unwanted.map fun e =>
        (shard.podTurnDown topology config desired e.2).failureIn? e.1 w := by
  intro unwanted desired visited
  let visit := fun e : ObjectKey × Pod => ObjectSet.turnDown (passCalls Pod)
    (podStrategy (shard.input topology config now)) e.1 e.2
  let v := unwantedVisits shard topology config desired s.result.errors w
  have hinv : v.Inv s := ⟨h.entered, rfl, rfl, h.rejections⟩
  have hnodup : (unwanted.map v.keyOf).Nodup := ObjectSet.nodup_unwanted _ _
  have hstep : ∀ e ∈ unwanted, ∀ t, v.Inv t → v.view (v.keyOf e) t = v.view (v.keyOf e) s →
      v.Step visit e t ∧ (visit e t).1.failure
        = (shard.podTurnDown topology config desired e.2).failureIn? e.1 w := by
    intro e he t ht hview
    obtain ⟨hlive, hkey⟩ := ObjectSet.mem_unwanted.1 he
    exact unwantedVisits_step ht hkey (w.pods.keyed (Shard.get?_livePods.1 hlive).1)
      (hview.trans (hstored e.1 hkey))
  obtain ⟨⟨-, htablets, herrors, -⟩, hnotes, -, -⟩ := mapM_visits hinv hnodup
    fun e he t ht hview => (hstep e he t ht hview).1
  exact ⟨htablets, herrors, hnotes, mapM_answers Visit.failure _ hinv hnodup hstep⟩

variable (topology config now) in
/-- After the second half of a pass the refused pods have been noted, and the calls that failed. -/
theorem pods_phase_sideNotes (hentered : s.Entered shard) (htablets : s.tablets = shard.byKey) :
    let input := shard.input topology config now
    let s' := (PassInput.phase (passCalls Pod) (podStrategy input) input.podSet s).2
    let desired := s'.status.tablets
    (s'.cells, s'.status.orphanedTablets) =
        ((shard.objectSet now shard.keys).unwanted (shard.livePods now s.world)).foldl
          (shard.noteUnwanted topology config desired) (s.cells, s.status.orphanedTablets) ∧
      s'.result.errors = s.result.errors ++ (SetReport.errorOf? "Pod"
        ((shard.podPlan topology config now desired s.world).failures s.world)).toList := by
  intro input s' desired
  let set := shard.objectSet now shard.keys
  let live := shard.livePods now s.world
  let strategy := podStrategy input
  let mid := shard.keys.eraseDups.mapM (ObjectSet.visitDesired (passCalls Pod) strategy set live) s
  let rest := (set.unwanted live).mapM
    (fun e => ObjectSet.turnDown (passCalls Pod) strategy e.1 e.2) mid.2
  let report : SetReport := { kind := "Pod", visits := mid.1 ++ rest.1 }
  obtain ⟨hmid, hmidNotes, hmidFailures, hmidStored⟩ :=
    desired_pods_visited topology config now hentered htablets
  obtain ⟨hdesired, herrors, hnotes, hfailures⟩ :=
    unwanted_pods_visited topology config now hmid hmidStored
  simp only [PassState.sideNotes, Prod.mk.injEq] at hmidNotes
  obtain ⟨hcells, horphaned, hmidErrors⟩ := hmidNotes
  have hphase : s' = { rest.2 with result := rest.2.result.addOutcome (.ok report) } := rfl
  -- unwanted pods are judged by entries that no visit to one of them changes
  have hfinal : desired = mid.2.status.tablets := hdesired
  refine ⟨?_, ?_⟩
  · rw [hphase, hfinal, ← hcells, ← horphaned]
    exact hnotes
  · have hvisits : report.visits.map (·.failure) =
        set.keys.eraseDups.map (fun key =>
          (shard.podAction now s.world key (live.get? key)).failureIn? key s.world) ++
        (set.unwanted live).map fun e =>
          (shard.podTurnDown topology config desired e.2).failureIn? e.1 s.world := by
      rw [List.map_append, hfinal]
      exact congrArg₂ (· ++ ·) hmidFailures hfailures
    have hentries : (shard.podPlan topology config now desired s.world).entries =
        set.calls live (fun key => shard.podAction now s.world key (live.get? key))
          (fun _ => shard.podTurnDown topology config desired) := rfl
    have hreport := ObjectSet.errors_eq_failures hentries hvisits
    rw [hphase]
    dsimp only
    rw [PassResult.errors_addOutcome, SetReport.error?_eq, hreport]
    exact congrArg (· ++ _) (herrors.trans hmidErrors)

end Pods

/-! ## Whole passes -/

theorem PassState.foldl_addTablet_sideNotes {σ : Type} (ns : String) (ts : List TabletSpec)
    (s : PassState σ) :
    (ts.foldl (addTablet ns) s).sideNotes =
      ((ts.map (·.identity.cell)).reverse ++ s.cells, s.status.orphanedTablets, s.result.errors) := by
  induction ts generalizing s with
  | nil => rfl
  | cons t ts ih =>
      rw [List.foldl_cons, ih, List.map_cons, List.reverse_cons, List.append_assoc]
      rfl

namespace Shard

/-- The pods that a pass finds and that are not desired. -/
def unwantedPods (shard : Shard) (now : Timestamp) (w : MemoryStore) : List (ObjectKey × Pod) :=
  (shard.objectSet now shard.keys).unwanted (shard.livePods now w)

section Reported

variable (shard : Shard) (topology : Topology) (config : PassConfig) (now : Timestamp)
variable (w : MemoryStore)

/-- The failed calls on claims. -/
def claimFailures : List ObjectError := (shard.claimPlan now w).failures w

/-- The failed calls on pods, given the entries that unwanted ones are judged by. -/
def podFailures (desired : OrdMap String TabletStatus) : List ObjectError :=
  let between := shard.afterClaims now w
  (shard.podPlan topology config now desired between).failures between

/-- The cells and the unwanted tablets that a pass notes, given the entries that these are judged by. -/
def unwantedNotes (desired : OrdMap String TabletStatus) :
    List String × OrdMap String OrphanStatus :=
  (shard.unwantedPods now w).foldl (shard.noteUnwanted topology config desired)
    ((shard.tablets.map (·.identity.cell)).reverse, .empty)

theorem finalState_sideNotes :
    let s := shard.finalState topology config now w
    (s.cells, s.status.orphanedTablets)
        = shard.unwantedNotes topology config now w s.status.tablets ∧
      s.result.errors =
        (SetReport.errorOf? Claim.kind (shard.claimFailures now w)).toList ++
          (SetReport.errorOf? "Pod"
            (shard.podFailures topology config now w s.status.tablets)).toList := by
  have hstart := PassState.foldl_addTablet_sideNotes shard.ns shard.tablets
    ({ world := w } : PassState MemoryStore)
  have hclaims := claims_phase shard topology config now w
  have hclaimNotes := (claims_phase_reports shard topology config now w).2.2
  unfold finalState
  dsimp only at hclaims hclaimNotes ⊢
  rw [List.append_nil] at hstart
  simp only [PassState.sideNotes, Prod.mk.injEq] at hstart hclaimNotes
  obtain ⟨hstartCells, hstartOrphaned, hstartErrors⟩ := hstart
  obtain ⟨hcells, horphaned, herrors⟩ := hclaimNotes
  replace hcells := hcells.trans hstartCells
  replace horphaned := horphaned.trans hstartOrphaned
  replace herrors := herrors.trans (congrArg (· ++ _) hstartErrors)
  revert hclaims hcells horphaned herrors
  generalize (PassInput.phase (passCalls Claim) (claimStrategy (shard.input topology config now))
    (shard.input topology config now).claimSet ((shard.input topology config now).start w)).2 = s
  rintro ⟨hentered, htablets, hworld⟩ hcells horphaned herrors
  -- all that the second half has to know of the first is what it noted, and the store it left
  have hpods := pods_phase_sideNotes topology config now hentered htablets
  dsimp only at hpods
  rw [hcells, horphaned, herrors, hworld, ← afterClaims, livePods_afterClaims, List.nil_append]
    at hpods
  exact hpods

/-- What a pass reports beside the desired tablets. -/
theorem reported_sideNotes :
    let report := (shard.reconcileAt topology config now w).1
    let notes := shard.unwantedNotes topology config now w report.status.tablets
    report.status.cells = sortedDistinct notes.1 ∧ report.status.orphanedTablets = notes.2 ∧
      report.result.errors =
        (SetReport.errorOf? Claim.kind (shard.claimFailures now w)).toList ++
          (SetReport.errorOf? "Pod"
            (shard.podFailures topology config now w report.status.tablets)).toList := by
  have hfinal := shard.finalState_sideNotes topology config now w
  rw [reconcileAt_apply]
  generalize shard.finalState topology config now w = s at hfinal
  obtain ⟨hnotes, herrors⟩ := hfinal
  refine ⟨?_, ?_, herrors⟩
  · exact congrArg (fun notes => sortedDistinct (Prod.fst notes)) hnotes
  · exact congrArg Prod.snd hnotes

end Reported

end Shard

end TabletFleet
