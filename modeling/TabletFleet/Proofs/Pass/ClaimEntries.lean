import TabletFleet.Proofs.Pass.Outcome
import TabletFleet.Proofs.Reconcile.Told

set_option autoImplicit false

/-! # Status entries and claims

The first half of a pass changes the status entry of a tablet by what comes of its own claim, and that
alone. Beside the entries it notes which of its calls failed, and nothing else (`claims_phase_reports`). -/

namespace TabletFleet

open ManagedObject (metadata mapMetadata key?)
open StateRun

/-- Failed calls as one error, if there are any. -/
def SetReport.errorOf? (kind : String) (failures : List ObjectError) : Option ReconcileError :=
  if failures.isEmpty then none else some (.objects kind failures)

theorem SetReport.error?_eq (r : SetReport) : r.error? = errorOf? r.kind r.errors := rfl

namespace PassResult

theorem requeueAfter_addOutcome (r : PassResult) (outcome : Except ReconcileError SetReport) :
    (r.addOutcome outcome).requeueAfter = r.requeueAfter := by
  cases outcome with
  | error e => rfl
  | ok report =>
      simp only [addOutcome, addErrors]
      split <;> rfl

theorem errors_addOutcome (r : PassResult) (report : SetReport) :
    (r.addOutcome (.ok report)).errors = r.errors ++ report.error?.toList := by
  simp only [addOutcome, addErrors]
  cases report.error? with
  | none => exact (List.append_nil r.errors).symm
  | some e => rfl

end PassResult

/-! ## The entry at a key -/

namespace PassState

variable {σ : Type} {shard : Shard} {s : PassState σ} {key : ObjectKey}

/-- The status entry of the tablet at a key. -/
def entryAt (shard : Shard) (s : PassState σ) (key : ObjectKey) : Option TabletStatus :=
  (shard.textAt key).bind s.status.tablets.get?

/-- What is noted of pods beside the entries of their tablets: the lowest generation that they were
updated for, and when to look at them again. -/
def podNotes (s : PassState σ) : Int64 × Option Duration :=
  (s.status.lowestPodGeneration, s.result.requeueAfter)

theorem podNotes_addOutcome (s : PassState σ) (outcome : Except ReconcileError SetReport) :
    podNotes { s with result := s.result.addOutcome outcome } = s.podNotes :=
  Prod.ext rfl (s.result.requeueAfter_addOutcome outcome)

theorem podNotes_modifyTablet (s : PassState σ) (key : ObjectKey) (f : TabletStatus → TabletStatus) :
    (s.modifyTablet key f).podNotes = s.podNotes := by
  unfold modifyTablet
  cases s.tablets.get? key <;> rfl

/-- What is noted beside the desired tablets: the cells that have a tablet, the unwanted tablets that are
kept, and what went wrong. -/
def sideNotes (s : PassState σ) :
    List String × OrdMap String OrphanStatus × List ReconcileError :=
  (s.cells, s.status.orphanedTablets, s.result.errors)

/-- At the end of a sweep the calls that failed are noted as one error, if there are any. -/
theorem sideNotes_addOutcome {s start : PassState σ} (h : s.sideNotes = start.sideNotes)
    {report : SetReport} {failures : List ObjectError} (hfailures : report.errors = failures) :
    sideNotes { s with result := s.result.addOutcome (.ok report) } =
      (start.cells, start.status.orphanedTablets,
        start.result.errors ++ (SetReport.errorOf? report.kind failures).toList) := by
  simp only [sideNotes, Prod.mk.injEq] at h ⊢
  refine ⟨h.1, h.2.1, ?_⟩
  rw [PassResult.errors_addOutcome, h.2.2, SetReport.error?_eq, hfailures]

theorem sideNotes_modifyTablet (s : PassState σ) (key : ObjectKey) (f : TabletStatus → TabletStatus) :
    (s.modifyTablet key f).sideNotes = s.sideNotes := by
  unfold modifyTablet
  cases s.tablets.get? key <;> rfl

theorem Entered.entryAt_modifyTablet_self (h : s.Entered shard) (key : ObjectKey)
    (f : TabletStatus → TabletStatus) :
    (s.modifyTablet key f).entryAt shard key = (s.entryAt shard key).map f := by
  unfold entryAt
  cases htext : shard.textAt key with
  | none => rfl
  | some text => rw [Option.bind_some, Option.bind_some, h.get?_modifyTablet, if_pos htext]

theorem Entered.entryAt_modifyTablet (h : s.Entered shard) {k : ObjectKey} (hk : k ≠ key)
    (f : TabletStatus → TabletStatus) : (s.modifyTablet key f).entryAt shard k = s.entryAt shard k := by
  unfold entryAt
  cases htext : shard.textAt k with
  | none => rfl
  | some text =>
      have hne : shard.textAt key ≠ some text := fun h' => hk (Shard.key_eq_of_textAt htext h')
      rw [Option.bind_some, Option.bind_some, h.get?_modifyTablet, if_neg hne]

theorem entryAt_act {K : Type} [Stored K] (s : PassState MemoryStore) (a : Action K)
    (key key' : ObjectKey) : (s.act a key).entryAt shard key' = s.entryAt shard key' := rfl

theorem modifyTablet_id (s : PassState σ) (key : ObjectKey) : s.modifyTablet key (fun t => t) = s := by
  have hsame : ∀ (m : OrdMap String TabletStatus) (k : String), m.modify k (fun t => t) = m := by
    intro m k
    refine OrdMap.ext_get? fun k' => ?_
    rw [OrdMap.get?_modify, Option.map_id', ite_self]
  unfold modifyTablet
  cases s.tablets.get? key with
  | none => rfl
  | some t => simp only [hsame]

theorem modifyTablet_modifyTablet (s : PassState σ) (key : ObjectKey)
    (f g : TabletStatus → TabletStatus) :
    (s.modifyTablet key f).modifyTablet key g = s.modifyTablet key (fun t => g (f t)) := by
  have hmodify : ∀ (m : OrdMap String TabletStatus) (k : String),
      (m.modify k f).modify k g = m.modify k fun t => g (f t) := by
    intro m k
    refine OrdMap.ext_get? fun k' => ?_
    simp only [OrdMap.get?_modify]
    split
    · rw [Option.map_map]
      rfl
    · rfl
  cases ht : s.tablets.get? key with
  | none => simp only [modifyTablet, ht]
  | some t => simp only [modifyTablet, ht, hmodify]

theorem act_modifyTablet {K : Type} [Stored K] (s : PassState MemoryStore) (key key' : ObjectKey)
    (f : TabletStatus → TabletStatus) (a : Action K) :
    (s.modifyTablet key f).act a key' = (s.act a key').modifyTablet key f := by
  cases ht : s.tablets.get? key with
  | none => simp only [modifyTablet, act, ht]
  | some t => simp only [modifyTablet, act, ht]

end PassState

namespace TabletStatus

/-- A failed call on one of the tablet's objects. -/
def noteFailure (t : TabletStatus) (failure? : Option ObjectError) : TabletStatus :=
  match failure? with
  | none => t
  | some e => { t with lastError := some e.message }

theorem noteFailure_eq (t : TabletStatus) (failure? : Option ObjectError) :
    t.noteFailure failure? = { t with lastError := (failure?.map (·.message)).or t.lastError } := by
  cases failure? <;> rfl

/-- The tablet's claim. -/
def noteClaim (t : TabletStatus) (c? : Option Claim) : TabletStatus :=
  match c? with
  | none => t
  | some c => { t with dataVolumeBound := .ofBool c.isBound }

/-- The tablet's pod. -/
def notePod (t : TabletStatus) (p? : Option Pod) (now : Timestamp) : TabletStatus :=
  match p? with
  | none => t
  | some p => t.observePod p now

/-- The status of a tablet without a data volume. -/
def unbound (t : TabletStatus) : TabletStatus := { t with dataVolumeBound := .no }

end TabletStatus

/-! ## Visits to claims -/

namespace Shard

/-- The next state of a live desired claim, before its rollout markers are taken off. -/
def claimInPlace (shard : Shard) (key : ObjectKey) (c : Claim) : Claim :=
  match shard.byKey.get? key with
  | none => c
  | some t => c.updateInPlace t

/-- The status entry of the tablet at a key, once its claim has been visited. -/
def claimEntry (shard : Shard) (now : Timestamp) (w : MemoryStore) (key : ObjectKey)
    (entry : TabletStatus) : TabletStatus :=
  let live := (shard.liveClaims now w).get? key
  if key ∈ shard.claimKeys then
    let a := shard.claimAction key live
    let failure? := a.failureIn? key w
    let entry := if live.isNone then entry.unbound else entry
    (entry.noteFailure failure?).noteClaim
      (ObjectSet.told now (shard.claimInPlace key) live a failure?.isSome)
  else
    match live with
    | none => entry
    | some c => entry.noteFailure ((claimTurnDown w key c).failureIn? key w)

end Shard

section Claims

variable {shard : Shard} {topology : Topology} {config : PassConfig} {now : Timestamp}
variable {w : MemoryStore} {s : PassState MemoryStore} {key : ObjectKey}

theorem claimStrategy_ignoresStamps :
    (claimStrategy (shard.input topology config now)).IgnoresStamps where
  status key a b h := by
    have hstamps : ∀ c : Claim, (unstamped c).isBound = c.isBound := fun _ => rfl
    have hbound : a.isBound = b.isBound := by rw [← hstamps a, h, hstamps b]
    simp only [claimStrategy, hbound]
  orphanStatus _ _ _ _ _ := rfl

theorem noteFailure_claim (failure? : Option ObjectError) (s : PassState MemoryStore) :
    ObjectSet.noteFailure (claimStrategy (shard.input topology config now)) key failure? s
      = s.modifyTablet key (·.noteFailure failure?) := by
  cases failure? with
  | none => exact (s.modifyTablet_id key).symm
  | some e => rfl

theorem noteObject_claim (c? : Option Claim) (s : PassState MemoryStore) :
    ObjectSet.noteObject (claimStrategy (shard.input topology config now)) key c? s
      = s.modifyTablet key (·.noteClaim c?) := by
  cases c? with
  | none => exact (s.modifyTablet_id key).symm
  | some c => rfl

theorem noteOrphan_claim (prepared : Claim × Verdict) (s : PassState MemoryStore) :
    ObjectSet.noteOrphan (claimStrategy (shard.input topology config now)) key prepared s = s := by
  obtain ⟨c, verdict⟩ := prepared
  cases verdict <;> rfl

theorem updateInPlace_claim_apply (htablets : s.tablets = shard.byKey) (c : Claim) :
    (claimStrategy (shard.input topology config now)).updateInPlace key c s
      = (shard.claimInPlace key c, s) := by
  simp only [claimStrategy, bind_apply, get_apply, htablets, Shard.claimInPlace]
  cases shard.byKey.get? key <;> rfl

theorem beforeCall_claim (live : Option Claim) :
    ObjectSet.beforeCall (claimStrategy (shard.input topology config now)) live key s
      = s.modifyTablet key fun t => if live.isNone then t.unbound else t := by
  cases live with
  | none => rfl
  | some c =>
      refine Eq.trans ?_ (s.modifyTablet_id key).symm
      simp only [ObjectSet.beforeCall, claimStrategy, bind_apply, get_apply]
      cases s.tablets.get? key <;> rfl

theorem key?_claimInPlace {c : Claim} (hc : key? c = some key) :
    key? (shard.claimInPlace key c) = some key := by
  unfold Shard.claimInPlace
  cases shard.byKey.get? key with
  | none => exact hc
  | some t => exact (Shard.key?_updateInPlace c t).trans hc

variable (topology config now) in
/-- A visit to a desired claim makes its call, and changes the entry of its own tablet. -/
theorem visitDesired_claim_eq (h : ClaimsVisited shard w s) (hkey : key ∈ shard.claimKeys)
    (hstored : s.world.fetch? Claim key = w.fetch? Claim key) :
    let a := shard.claimAction key ((shard.liveClaims now w).get? key)
    let visit := ObjectSet.visitDesired (passCalls Claim)
      (claimStrategy (shard.input topology config now)) (shard.objectSet now shard.claimKeys)
      (shard.liveClaims now w) key s
    visit.1.failure = a.failureIn? key w ∧
      visit.2 = (s.act a key).modifyTablet key (shard.claimEntry now w key) := by
  intro a visit
  let live := (shard.liveClaims now w).get? key
  let strategy := claimStrategy (shard.input topology config now)
  let set := shard.objectSet now shard.claimKeys
  have hdesired : ObjectSet.desiredAction strategy set live key s = a :=
    desiredAction_claim set live h.tablets (shard.claimKeys_subset hkey)
  have hinPlace : (fun c => (strategy.updateInPlace key c s).1) = shard.claimInPlace key :=
    funext fun c => congrArg Prod.fst (updateInPlace_claim_apply h.tablets c)
  have hfailure : a.failureIn? key s.world = a.failureIn? key w :=
    a.failureIn?_of_unchanged h.rejections hstored
  have hnew : ∀ c, (strategy.newObject key s).1 = some c → key? c = some key := by
    intro c hc
    obtain ⟨t, -, hnew⟩ := Option.bind_eq_some_iff.1 hc
    obtain ⟨template, -, rfl⟩ := Option.map_eq_some_iff.1 hnew
    rfl
  have hlive : ∀ c, (shard.liveClaims now w).get? key = some c →
      key? (strategy.updateInPlace key c s).1 = some key := by
    intro c hc
    rw [updateInPlace_claim_apply h.tablets]
    exact key?_claimInPlace (w.claims.keyed (Shard.get?_liveClaims.1 hc).1)
  obtain ⟨hfailed, hstate⟩ := ObjectSet.visitDesired_eq (claimStrategy_ignoresStamps) set
    (shard.liveClaims now w) hnew hlive
  rw [hdesired, beforeCall_claim, PassState.world_modifyTablet, hfailure] at hfailed hstate
  rw [hinPlace, noteFailure_claim, noteObject_claim, PassState.act_modifyTablet,
    PassState.modifyTablet_modifyTablet, PassState.modifyTablet_modifyTablet] at hstate
  refine ⟨hfailed, hstate.trans ?_⟩
  congr 1
  funext entry
  simp only [Shard.claimEntry, if_pos hkey]
  rfl

variable (topology config now) in
/-- A visit to an unwanted claim makes its call, and at most notes that it failed. -/
theorem turnDown_claim_eq (h : ClaimsVisited shard w s) (hkey : key ∉ shard.claimKeys)
    {c : Claim} (hlive : (shard.liveClaims now w).get? key = some c)
    (hstored : s.world.fetch? Claim key = w.fetch? Claim key) :
    let a := Shard.claimTurnDown w key c
    let visit := ObjectSet.turnDown (passCalls Claim)
      (claimStrategy (shard.input topology config now)) key c s
    visit.1.failure = a.failureIn? key w ∧
      visit.2 = (s.act a key).modifyTablet key (shard.claimEntry now w key) := by
  intro a visit
  let strategy := claimStrategy (shard.input topology config now)
  have hentry : shard.claimEntry now w key
      = fun entry => entry.noteFailure (a.failureIn? key w) := by
    funext entry
    simp only [Shard.claimEntry, if_neg hkey, hlive]
    rfl
  rw [hentry]
  by_cases hterm : ManagedObject.isTerminating c = true
  · have hrest : a = .rest := by
      have hmeta : c.metadata.isTerminating = true := hterm
      simp only [a, Shard.claimTurnDown, hmeta, Bool.true_or, if_true]
    rw [hrest]
    simp only [visit, ObjectSet.turnDown, if_pos hterm]
    exact ⟨rfl, (s.modifyTablet_id key).symm⟩
  · have hfailure : a.failureIn? key s.world = a.failureIn? key w :=
      Action.failureIn?_of_unchanged h.rejections hstored _
    have hsame : (strategy.prepareForTurndown key c s).2 = s :=
      congrArg Prod.snd (prepareForTurndown_claim_apply key c s)
    have hcurrent : key? (strategy.prepareForTurndown key c s).1.1 = some key :=
      w.claims.keyed (Shard.get?_liveClaims.1 hlive).1
    obtain ⟨hfailed, hstate⟩ := ObjectSet.turnDown_eq claimStrategy_ignoresStamps
      (Bool.eq_false_iff.2 hterm) hcurrent
    rw [turnDownAction_claim h key c, hsame] at hfailed hstate
    rw [hfailure] at hfailed
    rw [hfailure, noteOrphan_claim, noteFailure_claim] at hstate
    exact ⟨hfailed, hstate⟩

/-! ## The claims of a pass -/

theorem ClaimsVisited.modifyTablet (h : ClaimsVisited shard w s) (key : ObjectKey)
    (f : TabletStatus → TabletStatus) : ClaimsVisited shard w (s.modifyTablet key f) where
  entered := h.entered.modifyTablet key f
  tablets := PassState.tablets_modifyTablet.trans h.tablets
  pods := by rw [PassState.world_modifyTablet, h.pods]
  rejections := by rw [PassState.world_modifyTablet, h.rejections]

/-- The visits to claims, with what they make of the status entries that there are at first. -/
def claimVisits (shard : Shard) (now : Timestamp) (w : MemoryStore)
    (start : ObjectKey → Option TabletStatus) :
    Visits (PassState MemoryStore) ObjectKey ObjectKey
      ((Int64 × Option Duration) × List String × OrdMap String OrphanStatus × List ReconcileError)
      (Option TabletStatus × Option Claim) where
  keyOf := id
  Inv := ClaimsVisited shard w
  world s := (s.podNotes, s.sideNotes)
  effect _ := id
  view key s := (s.entryAt shard key, s.world.fetch? Claim key)
  after key v := v.1 = (start key).map (shard.claimEntry now w key)

/-- A visit that makes a call and changes its own entry is one of these. -/
theorem claimVisits_step {f : ObjectKey → StateM (PassState MemoryStore) Visit} {a : Action Claim}
    {start : ObjectKey → Option TabletStatus} (h : ClaimsVisited shard w s) (hfits : a.Fits key)
    (hentry : s.entryAt shard key = start key)
    (hstate : (f key s).2 = (s.act a key).modifyTablet key (shard.claimEntry now w key)) :
    (claimVisits shard now w start).Step f key s := by
  have hact := h.act hfits
  constructor
  case inv =>
    rw [hstate]
    exact hact.modifyTablet _ _
  case world =>
    rw [hstate]
    exact Prod.ext (PassState.podNotes_modifyTablet _ _ _) (PassState.sideNotes_modifyTablet _ _ _)
  case after =>
    rw [hstate]
    refine (hact.entered.entryAt_modifyTablet_self key _).trans ?_
    rw [PassState.entryAt_act, hentry]
  case frame =>
    intro k (hk : k ≠ key)
    rw [hstate]
    refine Prod.ext (hact.entered.entryAt_modifyTablet hk _) ?_
    dsimp only [claimVisits]
    rw [PassState.world_modifyTablet, PassState.world_act, Action.fetch?_perform hfits, if_neg hk]

variable (shard topology config now w) in
/-- After the first half of a pass, the entry of every tablet shows what came of its claim. Nothing has been
noted of pods and of unwanted tablets, and of failures that of the planned calls. -/
theorem claims_phase_reports :
    let input := shard.input topology config now
    let start := input.start w
    let s := (PassInput.phase (passCalls Claim) (claimStrategy input) input.claimSet start).2
    (∀ key, s.entryAt shard key = (start.entryAt shard key).map (shard.claimEntry now w key)) ∧
      s.podNotes = start.podNotes ∧
      s.sideNotes = (start.cells, start.status.orphanedTablets, start.result.errors ++
        (SetReport.errorOf? Claim.kind ((shard.claimPlan now w).failures w)).toList) := by
  intro input start s
  let set := shard.objectSet now shard.claimKeys
  let live := shard.liveClaims now w
  let v := claimVisits shard now w fun key => start.entryAt shard key
  let strategy := claimStrategy input
  have hworld : start.world = w := input.world_start w
  have hstart : v.Inv start := ⟨input.entered_start w, input.tablets_start w, by rw [hworld], by rw [hworld]⟩
  have hfetch : ∀ k, start.world.fetch? Claim k = w.fetch? Claim k := fun k => by rw [hworld]
  have hlive : ∀ {k c}, live.get? k = some c → key? c = some k := fun hc =>
    w.claims.keyed (Shard.get?_liveClaims.1 hc).1
  have hdesired : ∀ key ∈ set.keys, ∀ t, v.Inv t → v.view key t = v.view key start →
      v.Step (ObjectSet.visitDesired (passCalls Claim) strategy set live) key t ∧
        (ObjectSet.visitDesired (passCalls Claim) strategy set live key t).1.failure
          = (shard.claimAction key (live.get? key)).failureIn? key w := by
    intro key hkey t ht hview
    obtain ⟨hfailure, hstate⟩ := visitDesired_claim_eq topology config now ht hkey
      ((congrArg Prod.snd hview).trans (hfetch key))
    exact ⟨claimVisits_step ht (Shard.claimAction_fits fun _ hc => hlive hc)
      (congrArg Prod.fst hview) hstate, hfailure⟩
  have hunwanted : ∀ key c, key ∉ set.keys → live.get? key = some c → ∀ t, v.Inv t →
      v.view key t = v.view key start →
      v.Step (fun key => ObjectSet.turnDown (passCalls Claim) strategy key c) key t ∧
        (ObjectSet.turnDown (passCalls Claim) strategy key c t).1.failure
          = (Shard.claimTurnDown w key c).failureIn? key w := by
    intro key c hkey hc t ht hview
    obtain ⟨hfailure, hstate⟩ := turnDown_claim_eq topology config now ht hkey hc
      ((congrArg Prod.snd hview).trans (hfetch key))
    exact ⟨claimVisits_step ht (Shard.claimTurnDown_fits w key c) (congrArg Prod.fst hview) hstate,
      hfailure⟩
  obtain ⟨-, hnotes, hvisited, hframe⟩ := ObjectSet.visitAll_visits (passCalls Claim) strategy set live
    (v := v) rfl hstart (fun key hkey t ht hview => (hdesired key hkey t ht hview).1)
    fun key c hkey hc t ht hview => (hunwanted key c hkey hc t ht hview).1
  have hfailures := ObjectSet.visitAll_answers (passCalls Claim) strategy set live rfl hstart
    Visit.failure _ _ hdesired hunwanted
  have hphase := phase_apply strategy input.claimSet start
  have hliveIn : input.claimSet.liveIn start.world = live := by rw [hworld]; rfl
  dsimp only at hphase
  rw [hliveIn] at hphase
  rw [show s = _ from hphase]
  have hunnoted := hnotes.trans (List.foldl_fixed' (fun _ => rfl) _)
  refine ⟨fun key => ?_, ?_, ?_⟩
  · by_cases hkey : key ∈ set.visitOrder live
    · exact hvisited key hkey
    · -- nothing is desired or found at the key, so the entry is that of a tablet without a claim
      have hentry : shard.claimEntry now w key = id := by
        obtain ⟨hnot, hnone⟩ : key ∉ shard.claimKeys ∧ (shard.liveClaims now w).get? key = none :=
          ObjectSet.notMem_visitOrder.1 hkey
        funext entry
        simp only [Shard.claimEntry, if_neg hnot, hnone]
        rfl
      rw [hentry, Option.map_id]
      exact congrArg Prod.fst (hframe key hkey)
  · exact (PassState.podNotes_addOutcome _ _).trans (congrArg Prod.fst hunnoted)
  · exact PassState.sideNotes_addOutcome (congrArg Prod.snd hunnoted)
      (ObjectSet.errors_eq_failures rfl hfailures)

end Claims

end TabletFleet
