import TabletFleet.Proofs.Pass.ClaimEntries

set_option autoImplicit false

/-! # Status entries

What a pass reports of a desired tablet is told by its own objects alone (`Shard.reported_entry`): the
entry with which the pass starts, changed by what comes of its claim, and then by what comes of its pod.
What the status says of all pods together is what it was told of them one after another
(`Shard.reported_notes`). -/

namespace TabletFleet

open ManagedObject (metadata key?)
open StateRun

/-! ## Visits to pods -/

namespace Shard

section Told

variable (shard : Shard) (now : Timestamp) (w : MemoryStore) (key : ObjectKey)

/-- The next state of a live desired pod, before its rollout markers are set. -/
def podInPlace (p : Pod) : Pod :=
  match shard.byKey.get? key with
  | none => p
  | some t => shard.podNext t p

/-- The failure of the call for a desired pod, if it fails. -/
def podFailure? : Option ObjectError :=
  (shard.podAction now w key ((shard.livePods now w).get? key)).failureIn? key w

/-- The pod that the status is told of, stamps apart. -/
def podTold : Option Pod :=
  let live := (shard.livePods now w).get? key
  ObjectSet.told now (shard.podInPlace key) live (shard.podAction now w key live)
    (shard.podFailure? now w key).isSome

/-- The status entry of the tablet at a key, once its pod has been visited. -/
def podEntry (entry : TabletStatus) : TabletStatus :=
  let entry := if ((shard.livePods now w).get? key).isNone then entry.notRunning else entry
  (entry.noteFailure (shard.podFailure? now w key)).notePod (shard.podTold now w key) now

end Told

/-- Why the pod of an unwanted tablet may not go, unless it may or is on its way out. -/
def refusal? (shard : Shard) (topology : Topology) (config : PassConfig)
    (desired : OrdMap String TabletStatus) (p : Pod) : Option OrphanStatus :=
  if p.metadata.isTerminating then none
  else
    match (shard.podPrepared topology config desired p).2 with
    | .allow => none
    | .refuse why => some why

end Shard

namespace PassState

variable {σ : Type}

theorem observeOrphan_congr {s : PassState σ} {key : ObjectKey} {p q : Pod}
    (h : p.metadata.labels = q.metadata.labels) (why : OrphanStatus) :
    s.observeOrphan key p why = s.observeOrphan key q why := by
  simp only [observeOrphan, Pod.orphanName, h]

/-- The state once an unwanted pod has been noted, if it is refused. -/
def noteRefusal (s : PassState σ) (key : ObjectKey) (p : Pod) (refusal? : Option OrphanStatus) :
    PassState σ :=
  match refusal? with
  | none => s
  | some why => s.observeOrphan key p why

/-- A refusal shows in what is reported of unwanted tablets only. -/
theorem noteRefusal_eq (s : PassState σ) (key : ObjectKey) (p : Pod)
    (refusal? : Option OrphanStatus) :
    ∃ cells orphanedTablets, s.noteRefusal key p refusal? =
      { s with cells, status := { s.status with orphanedTablets } } := by
  cases refusal? with
  | none => exact ⟨_, _, rfl⟩
  | some why => exact ⟨_, _, rfl⟩

end PassState

/-- The lowest generation that was seen, once a pod has been seen too; zero if none was. -/
def lowerGeneration (lowest : Int64) (generation? : Option Int64) : Int64 :=
  match generation? with
  | none => lowest
  | some g => if lowest = 0 ∨ g < lowest then g else lowest

/-- What is noted of pods, once a pod is noted too. -/
def notePod (now : Timestamp) (notes : Int64 × Option Duration) (p? : Option Pod) :
    Int64 × Option Duration :=
  match p? with
  | none => notes
  | some p =>
    (lowerGeneration notes.1 p.observedGeneration?,
      if p.isServing && p.availability now == .awaited then
        (PassResult.requeue { requeueAfter := notes.2 } availabilityWindow).requeueAfter
      else notes.2)

section Pods

variable {shard : Shard} {topology : Topology} {config : PassConfig} {now : Timestamp}
variable {w : MemoryStore} {s : PassState MemoryStore} {key : ObjectKey}

theorem podStrategy_ignoresStamps :
    (podStrategy (shard.input topology config now)).IgnoresStamps where
  status key a b h := by
    have hstamps : ∀ (s : PassState MemoryStore) (p : Pod),
        s.observePod key (unstamped p) now = s.observePod key p now := fun _ _ => rfl
    have hsame : ∀ s : PassState MemoryStore, s.observePod key a now = s.observePod key b now := by
      intro s
      rw [← hstamps s a, h, hstamps s b]
    exact congrArg (fun f => (modify f : StateM (PassState MemoryStore) Unit)) (funext hsame)
  orphanStatus key a b why h := by
    have hstamps : ∀ (s : PassState MemoryStore) (p : Pod),
        s.observeOrphan key (unstamped p) why = s.observeOrphan key p why := fun _ _ => rfl
    have hsame : ∀ s : PassState MemoryStore,
        s.observeOrphan key a why = s.observeOrphan key b why := by
      intro s
      rw [← hstamps s a, h, hstamps s b]
    exact congrArg (fun f => (modify f : StateM (PassState MemoryStore) Unit)) (funext hsame)

theorem entryAt_observePod (s : PassState MemoryStore) (key k : ObjectKey) (p : Pod)
    (now : Timestamp) : (s.observePod key p now).entryAt shard k
      = (s.modifyTablet key (·.observePod p now)).entryAt shard k := by
  obtain ⟨result, lowest, hobserved⟩ := observePod_eq s key p now
  rw [hobserved]
  rfl

theorem lowestPodGeneration_observeGeneration (s : ShardStatus) (g : Int64) :
    (s.observeGeneration g).lowestPodGeneration
      = lowerGeneration s.lowestPodGeneration (some g) := by
  unfold ShardStatus.observeGeneration lowerGeneration
  dsimp only
  split <;> rfl

theorem podNotes_observePod (s : PassState MemoryStore) (key : ObjectKey) (p : Pod)
    (now : Timestamp) : (s.observePod key p now).podNotes = notePod now s.podNotes (some p) := by
  have hnotes := s.podNotes_modifyTablet key (·.observePod p now)
  rw [← hnotes]
  unfold PassState.observePod
  generalize s.modifyTablet key (·.observePod p now) = t
  cases hg : p.observedGeneration? with
  | none =>
      simp only [notePod, hg, lowerGeneration]
      split <;> rfl
  | some g =>
      simp only [notePod, hg]
      split <;> exact Prod.ext (lowestPodGeneration_observeGeneration t.status g) rfl

theorem sideNotes_observePod {σ : Type} (s : PassState σ) (key : ObjectKey) (p : Pod)
    (now : Timestamp) : (s.observePod key p now).sideNotes = s.sideNotes := by
  rw [← s.sideNotes_modifyTablet key (·.observePod p now)]
  unfold PassState.observePod
  generalize s.modifyTablet key (·.observePod p now) = t
  cases p.observedGeneration? with
  | none => dsimp only; split <;> rfl
  | some g =>
      simp only [ShardStatus.observeGeneration]
      split <;> split <;> rfl

theorem noteFailure_pod (failure? : Option ObjectError) (s : PassState MemoryStore) :
    ObjectSet.noteFailure (podStrategy (shard.input topology config now)) key failure? s
      = s.modifyTablet key (·.noteFailure failure?) := by
  cases failure? with
  | none => exact (s.modifyTablet_id key).symm
  | some e => rfl

theorem entryAt_noteObject_pod (p? : Option Pod) (s : PassState MemoryStore) (k : ObjectKey) :
    (ObjectSet.noteObject (podStrategy (shard.input topology config now)) key p? s).entryAt shard k
      = (s.modifyTablet key (·.notePod p? now)).entryAt shard k := by
  cases p? with
  | none => exact congrArg (PassState.entryAt shard · k) (s.modifyTablet_id key).symm
  | some p => exact entryAt_observePod s key k p now

theorem podNotes_noteObject_pod (p? : Option Pod) (s : PassState MemoryStore) :
    (ObjectSet.noteObject (podStrategy (shard.input topology config now)) key p? s).podNotes
      = notePod now s.podNotes p? := by
  cases p? with
  | none => rfl
  | some p => exact podNotes_observePod s key p now

theorem sideNotes_noteObject_pod (p? : Option Pod) (s : PassState MemoryStore) :
    (ObjectSet.noteObject (podStrategy (shard.input topology config now)) key p? s).sideNotes
      = s.sideNotes := by
  cases p? with
  | none => rfl
  | some p => exact sideNotes_observePod s key p now

variable (topology config now) in
/-- What leads up to the call for a desired pod shows in no entry but that of a tablet without a pod. -/
theorem beforeCall_pod (h : s.Entered shard) {t : TabletSpec} (ht : s.tablets.get? key = some t)
    (live : Option Pod) :
    let before := ObjectSet.beforeCall (podStrategy (shard.input topology config now)) live key s
    before.Entered shard ∧ before.world = s.world ∧ before.podNotes = s.podNotes ∧
      before.sideNotes = s.sideNotes ∧ ∀ k, before.entryAt shard k
        = (s.modifyTablet key fun e => if live.isNone then e.notRunning else e).entryAt shard k := by
  intro before
  cases live with
  | none =>
      have hbefore : before = s.modifyTablet key (·.notRunning) := by
        simp only [before, ObjectSet.beforeCall, newObject_pod_apply t ht]
      rw [hbefore]
      exact ⟨h.modifyTablet key _, PassState.world_modifyTablet, s.podNotes_modifyTablet key _,
        s.sideNotes_modifyTablet key _, fun _ => rfl⟩
  | some p =>
      have hbefore : before = { s with
          tablets := s.tablets.insert key (t.resizedIn s.world (t.key shard.ns)) } := by
        simp only [before, ObjectSet.beforeCall, updateInPlace_pod_apply ht, updateAnew_pod_apply ht]
      rw [hbefore]
      refine ⟨h.mark ht (identity_resizedIn ..), rfl, rfl, rfl, fun k => ?_⟩
      show s.entryAt shard k = (s.modifyTablet key fun e => e).entryAt shard k
      rw [s.modifyTablet_id]

variable (topology config now) in
/-- A visit to a desired pod changes the entry of its own tablet, and notes the pod. -/
theorem reports_visitDesired_pod (h : PodsVisited shard w s) (hkey : key ∈ shard.keys)
    (htablet : s.tablets.get? key = shard.byKey.get? key)
    (hstored : s.world.fetch? Pod key = w.fetch? Pod key) :
    let visit := ObjectSet.visitDesired (passCalls Pod)
      (podStrategy (shard.input topology config now)) (shard.objectSet now shard.keys)
      (shard.livePods now w) key s
    visit.1.failure = shard.podFailure? now w key ∧
      visit.2.entryAt shard key = (s.entryAt shard key).map (shard.podEntry now w key) ∧
      (∀ k, k ≠ key → visit.2.entryAt shard k = s.entryAt shard k) ∧
      visit.2.podNotes = notePod now s.podNotes (shard.podTold now w key) ∧
      visit.2.sideNotes = s.sideNotes := by
  intro visit
  let strategy := podStrategy (shard.input topology config now)
  let set := shard.objectSet now shard.keys
  let live := (shard.livePods now w).get? key
  let failure? := shard.podFailure? now w key
  let before := ObjectSet.beforeCall strategy live key s
  let a := shard.podAction now w key live
  obtain ⟨t, ht⟩ := Shard.exists_byKey hkey
  have hat : s.tablets.get? key = some t := htablet.trans ht
  obtain ⟨hentered, hworld, hnotes, hsideNotes, hentry⟩ :=
    beforeCall_pod topology config now h.entered hat live
  have hfailure : a.failureIn? key before.world = failure? := by
    rw [show before.world = s.world from hworld]
    exact a.failureIn?_of_unchanged h.rejections hstored
  have hinPlace : (fun p => (strategy.updateInPlace key p s).1) = shard.podInPlace key := by
    funext p
    simp only [strategy, updateInPlace_pod_apply hat, Shard.podInPlace, ht]
  have hnew : ∀ p, (strategy.newObject key s).1 = some p → key? p = some key := by
    intro p hp
    simp only [strategy, newObject_pod_apply t hat] at hp
    rw [← Option.some.inj hp]
    rfl
  have hlive : ∀ p, (shard.livePods now w).get? key = some p →
      key? (strategy.updateInPlace key p s).1 = some key := by
    intro p hp
    have hkeyed : key? p = some key := w.pods.keyed (Shard.get?_livePods.1 hp).1
    rw [updateInPlace_pod_apply hat]
    exact hkeyed
  obtain ⟨hfailed, hstate⟩ := ObjectSet.visitDesired_eq podStrategy_ignoresStamps set
    (shard.livePods now w) hnew hlive
  rw [desiredAction_pod h hkey htablet, hfailure] at hfailed hstate
  rw [hinPlace, noteFailure_pod] at hstate
  have hreported (k : ObjectKey) : visit.2.entryAt shard k
      = (before.modifyTablet key fun e =>
          (e.noteFailure failure?).notePod (shard.podTold now w key) now).entryAt shard k := by
    rw [show visit.2 = _ from hstate, entryAt_noteObject_pod, PassState.modifyTablet_modifyTablet,
      ← PassState.act_modifyTablet]
    rfl
  refine ⟨hfailed, ?_, fun k hk => ?_, ?_, ?_⟩
  · rw [hreported, PassState.Entered.entryAt_modifyTablet_self hentered, hentry,
      h.entered.entryAt_modifyTablet_self, Option.map_map]
    rfl
  · rw [hreported, PassState.Entered.entryAt_modifyTablet hentered hk, hentry,
      h.entered.entryAt_modifyTablet hk]
  · rw [show visit.2 = _ from hstate, podNotes_noteObject_pod, PassState.podNotes_modifyTablet]
    exact congrArg (notePod now · (shard.podTold now w key)) hnotes
  · rw [show visit.2 = _ from hstate, sideNotes_noteObject_pod, PassState.sideNotes_modifyTablet]
    exact hsideNotes

variable (topology config now) in
/-- A visit to an unwanted pod makes its call, and notes that it is kept, if it is refused. -/
theorem turnDown_pod_eq (h : s.Entered shard) (hkey : key ∉ shard.keys) {p : Pod}
    (hp : key? p = some key) :
    let a := shard.podTurnDown topology config s.status.tablets p
    let visit := ObjectSet.turnDown (passCalls Pod) (podStrategy (shard.input topology config now))
      key p s
    visit.1.failure = a.failureIn? key s.world ∧
      visit.2 = (s.act a key).noteRefusal key p
        (shard.refusal? topology config s.status.tablets p) := by
  intro a visit
  by_cases hterm : ManagedObject.isTerminating p = true
  · have hmeta : p.metadata.isTerminating = true := hterm
    have hrest : a = .rest := by
      simp only [a, Shard.podTurnDown_eq, if_pos hmeta]
    rw [hrest, Shard.refusal?, if_pos hmeta]
    simp only [visit, ObjectSet.turnDown, if_pos hterm]
    exact ⟨rfl, rfl⟩
  · have hmeta : ¬p.metadata.isTerminating = true := hterm
    have hprepared : (podStrategy (shard.input topology config now)).prepareForTurndown key p s
        = (shard.podPrepared topology config s.status.tablets p, s) :=
      prepareForTurndown_pod_apply p
    have hcurrent : key? (shard.podPrepared topology config s.status.tablets p).1 = some key := by
      unfold Shard.podPrepared ObjectMeta.startDrain
      split
      · exact hp
      · split <;> exact hp
    obtain ⟨hfailed, hstate⟩ := ObjectSet.turnDown_eq podStrategy_ignoresStamps
      (Bool.eq_false_iff.2 hterm) (by rw [hprepared]; exact hcurrent)
    rw [hprepared, ← Shard.podTurnDown] at hfailed hstate
    rw [noteFailure_pod, PassState.modifyTablet_of_none (s := s.act a key)
      (h.orphansVisited.tablets key hkey)] at hstate
    refine ⟨hfailed, hstate.trans ?_⟩
    -- the drain request is not among the labels, by which the tablet is known
    have hlabels : (shard.podPrepared topology config s.status.tablets p).1.metadata.labels
        = p.metadata.labels := by
      unfold Shard.podPrepared ObjectMeta.startDrain
      split
      · rfl
      · split <;> rfl
    rw [Shard.refusal?, if_neg hmeta]
    unfold ObjectSet.noteOrphan
    cases (shard.podPrepared topology config s.status.tablets p).2 with
    | allow => rfl
    | refuse why => exact PassState.observeOrphan_congr hlabels why

/-! ## The pods of a pass -/

/-- The visits to pods, with what they make of the status entries that there are at first, and with what they
note. -/
def podReports (shard : Shard) (now : Timestamp) (w : MemoryStore)
    (start : ObjectKey → Option TabletStatus) :
    Visits (PassState MemoryStore) ObjectKey ObjectKey (Int64 × Option Duration)
      (Option TabletSpec × Option TabletStatus × Option Pod) where
  keyOf := id
  Inv := PodsVisited shard w
  world := (·.podNotes)
  effect key notes :=
    if key ∈ shard.keys then notePod now notes (shard.podTold now w key) else notes
  view key s := (s.tablets.get? key, s.entryAt shard key, s.world.fetch? Pod key)
  after key v := v.2.1 = (start key).map (shard.podEntry now w key)

/-- The tablets that are not desired have no entry. -/
theorem entryAt_eq_none (s : PassState MemoryStore) (hkey : key ∉ shard.keys) :
    s.entryAt shard key = none := by
  rw [PassState.entryAt, Shard.textAt, Shard.byKey_eq_none hkey]
  rfl

theorem podReports_step_desired (topology : Topology) (config : PassConfig)
    {start : ObjectKey → Option TabletStatus} (h : PodsVisited shard w s) (hkey : key ∈ shard.keys)
    (hview : (podReports shard now w start).view key s
      = (shard.byKey.get? key, start key, w.fetch? Pod key)) :
    (podReports shard now w start).Step (ObjectSet.visitDesired (passCalls Pod)
      (podStrategy (shard.input topology config now)) (shard.objectSet now shard.keys)
      (shard.livePods now w)) key s := by
  rw [podReports, Prod.mk.injEq, Prod.mk.injEq] at hview
  obtain ⟨htablet, hentry, hstored⟩ := hview
  have hfits : (shard.podAction now w key ((shard.livePods now w).get? key)).Fits key :=
    Shard.podAction_fits fun p hp => w.pods.keyed (Shard.get?_livePods.1 hp).1
  have hvisited := visitDesired_pod topology config now h hkey htablet (shard.livePods now w)
  obtain ⟨-, hself, hothers, hnotes, -⟩ := reports_visitDesired_pod topology config now h hkey
    htablet hstored
  refine ⟨⟨hvisited.entered, ?_, ?_⟩, ?_, ?_, ?_⟩
  · rw [hvisited.world, Action.claims_perform hfits, h.claims]
  · rw [hvisited.world, Action.rejections_perform hfits, h.rejections]
  · dsimp only [podReports]
    rw [if_pos hkey]
    exact hnotes
  · exact hself.trans (by rw [hentry])
  · intro k (hk : k ≠ key)
    refine Prod.ext (hvisited.tablets k hk) (Prod.ext (hothers k hk) ?_)
    dsimp only [podReports]
    rw [hvisited.world, Action.fetch?_perform hfits, if_neg hk]

theorem podReports_step_unwanted (topology : Topology) (config : PassConfig)
    {start : ObjectKey → Option TabletStatus} (h : PodsVisited shard w s) (hkey : key ∉ shard.keys)
    {p : Pod} (hp : key? p = some key) (hstart : start key = none) :
    (podReports shard now w start).Step (fun key => ObjectSet.turnDown (passCalls Pod)
      (podStrategy (shard.input topology config now)) key p) key s := by
  let a := shard.podTurnDown topology config s.status.tablets p
  have hfits : a.Fits key := Shard.podTurnDown_fits hp
  obtain ⟨cells, orphanedTablets, hnoted⟩ := (s.act a key).noteRefusal_eq key p
    (shard.refusal? topology config s.status.tablets p)
  have hstate := (turnDown_pod_eq topology config now h.entered hkey hp).2.trans hnoted
  constructor
  case inv =>
    rw [hstate]
    exact ⟨⟨h.entered.texts, h.entered.entries⟩, (Action.claims_perform hfits s.world).trans h.claims,
      (Action.rejections_perform hfits s.world).trans h.rejections⟩
  case world =>
    dsimp only [podReports]
    rw [hstate, if_neg hkey]
    rfl
  case after =>
    show PassState.entryAt shard _ key = _
    rw [entryAt_eq_none _ hkey, hstart]
    rfl
  case frame =>
    intro k (hk : k ≠ key)
    rw [hstate]
    refine Prod.ext rfl (Prod.ext rfl ?_)
    show (a.perform key s.world).fetch? Pod k = s.world.fetch? Pod k
    rw [Action.fetch?_perform hfits, if_neg hk]

variable (topology config now) in
/-- After the second half of a pass, the entry of every tablet shows what came of its pod, and all desired
pods have been noted in their order. -/
theorem pods_phase_reports (hentered : s.Entered shard) (htablets : s.tablets = shard.byKey) :
    let input := shard.input topology config now
    let s' := (PassInput.phase (passCalls Pod) (podStrategy input) input.podSet s).2
    s'.Entered shard ∧
      (∀ key, s'.entryAt shard key = (s.entryAt shard key).map (shard.podEntry now s.world key)) ∧
      s'.podNotes = shard.keys.eraseDups.foldl
        (fun notes key => notePod now notes (shard.podTold now s.world key)) s.podNotes := by
  intro input s'
  let w := s.world
  let set := shard.objectSet now shard.keys
  let live := shard.livePods now w
  let start := fun key => s.entryAt shard key
  obtain ⟨hend, hnotes, hvisited, hframe⟩ := ObjectSet.visitAll_visits (passCalls Pod)
    (podStrategy input) set live (v := podReports shard now w start) (s := s) rfl ⟨hentered, rfl, rfl⟩
    (fun key hkey t ht hview => podReports_step_desired topology config ht hkey
      (hview.trans (congrArg (fun m => (OrdMap.get? m key, start key, w.fetch? Pod key)) htablets)))
    fun key p hkey hp t ht _ => podReports_step_unwanted topology config ht hkey
      (w.pods.keyed (Shard.get?_livePods.1 hp).1) (entryAt_eq_none s hkey)
  rw [show s' = _ from phase_apply (podStrategy input) input.podSet s]
  refine ⟨⟨hend.entered.texts, hend.entered.entries⟩, fun key => ?_, ?_⟩
  · by_cases hkey : key ∈ set.visitOrder live
    · exact hvisited key hkey
    · have hnot : key ∉ shard.keys := (ObjectSet.notMem_visitOrder.1 hkey).1
      rw [entryAt_eq_none _ hnot, entryAt_eq_none _ hnot]
      rfl
  · refine (PassState.podNotes_addOutcome _ _).trans (hnotes.trans ?_)
    -- of those that are visited, the desired ones are noted
    have hnoted : (set.visitOrder live).filter (· ∈ shard.keys) = shard.keys.eraseDups :=
      set.filter_visitOrder live
    rw [← hnoted, List.foldl_filter]
    simp only [decide_eq_true_eq]
    rfl

end Pods

/-! ## Whole passes -/

theorem PassState.foldl_addTablet_notes {σ : Type} (ns : String) (ts : List TabletSpec)
    (s : PassState σ) :
    (ts.foldl (addTablet ns) s).podNotes = s.podNotes ∧
      (ts.foldl (addTablet ns) s).status.tablets = s.status.tablets.insertMany
        (ts.map fun t => (t.identity.text, { type := t.type, index := Int32.ofNat t.index })) := by
  induction ts generalizing s with
  | nil => exact ⟨rfl, rfl⟩
  | cons t ts ih => exact ih (s.addTablet ns t)

namespace Shard

/-- The status entries of the desired tablets before anything is known of their objects. -/
def blankEntries (shard : Shard) : OrdMap String TabletStatus :=
  .ofList (shard.tablets.map fun t =>
    (t.identity.text, { type := t.type, index := Int32.ofNat t.index }))

section Reported

variable (shard : Shard) (topology : Topology) (config : PassConfig) (now : Timestamp)
variable (w : MemoryStore)

theorem finalState_reports :
    let s := shard.finalState topology config now w
    let between := shard.afterClaims now w
    s.Entered shard ∧
      (∀ key, s.entryAt shard key = (((shard.textAt key).bind shard.blankEntries.get?).map
      (shard.claimEntry now w key)).map (shard.podEntry now between key)) ∧
      s.podNotes = shard.keys.eraseDups.foldl
        (fun notes key => notePod now notes (shard.podTold now between key)) (0, none) := by
  intro s between
  let input := shard.input topology config now
  obtain ⟨hstartNotes, hstartTablets⟩ := PassState.foldl_addTablet_notes shard.ns shard.tablets
    ({ world := w } : PassState MemoryStore)
  have hstart : ∀ key, (input.start w).entryAt shard key
      = (shard.textAt key).bind shard.blankEntries.get? := fun key =>
    congrArg (fun m : OrdMap String TabletStatus => (shard.textAt key).bind m.get?) hstartTablets
  obtain ⟨hentered, htablets, hworld⟩ := claims_phase shard topology config now w
  obtain ⟨hclaimEntries, hclaimNotes, -⟩ := claims_phase_reports shard topology config now w
  obtain ⟨hend, hpodEntries, hpodNotes⟩ := pods_phase_reports topology config now hentered htablets
  refine ⟨hend, fun key => ?_, ?_⟩
  · rw [show s.entryAt shard key = _ from hpodEntries key, hclaimEntries, hworld, hstart]
    rfl
  · rw [show s.podNotes = _ from hpodNotes, hclaimNotes, hworld,
      show (input.start w).podNotes = _ from hstartNotes]
    rfl

/-- The desired tablets are reported, and no others. -/
theorem mem_reportedTablets_iff (text : String) :
    text ∈ (shard.reportedTablets topology config now w).keys ↔
      ∃ t ∈ shard.tablets, t.identity.text = text := by
  have hentries := (shard.finalState_reports topology config now w).1.entries text
  rw [reportedTablets, reconcileAt_apply, OrdMap.mem_keys]
  generalize shard.finalState topology config now w = s at hentries
  refine hentries.trans ⟨?_, ?_⟩
  · rintro ⟨key, htext⟩
    obtain ⟨t, ht, rfl⟩ := Option.map_eq_some_iff.1 htext
    exact ⟨t, (of_byKey ht).1, rfl⟩
  · rintro ⟨t, ht, rfl⟩
    exact ⟨_, textAt_of_mem ht⟩

/-- An entry in the report is that of a desired tablet. -/
theorem tablet_of_reported {text : String} {entry : TabletStatus}
    (h : (shard.reportedTablets topology config now w).get? text = some entry) :
    ∃ t ∈ shard.tablets, t.identity.text = text := by
  rw [← mem_reportedTablets_iff shard topology config now w, OrdMap.mem_keys, h]
  rfl

section Entry

variable {shard} {key : ObjectKey} {text : String}

/-- What is reported of a desired tablet is what came of its claim, and then of its pod. -/
theorem reported_entry (htext : shard.textAt key = some text) :
    (shard.reportedTablets topology config now w).get? text =
      ((shard.blankEntries.get? text).map (shard.claimEntry now w key)).map
        (shard.podEntry now (shard.afterClaims now w) key) := by
  have hentry := (shard.finalState_reports topology config now w).2.1 key
  rw [reportedTablets, reconcileAt_apply]
  generalize shard.finalState topology config now w = s at hentry
  rw [PassState.entryAt, htext, Option.bind_some, Option.bind_some] at hentry
  exact hentry

/-- Every desired tablet is reported. -/
theorem exists_reported {t : TabletSpec} (ht : t ∈ shard.tablets) :
    ∃ entry, (shard.reportedTablets topology config now w).get? t.identity.text = some entry := by
  have hmem := (shard.mem_reportedTablets_iff topology config now w t.identity.text).2 ⟨t, ht, rfl⟩
  exact Option.isSome_iff_exists.1 (OrdMap.mem_keys.1 hmem)

end Entry

/-- What is reported of all pods together is what was noted of the desired ones, in their order. -/
theorem reported_notes :
    let report := (shard.reconcileAt topology config now w).1
    (report.status.lowestPodGeneration, report.result.requeueAfter) =
      shard.keys.eraseDups.foldl
        (fun notes key => notePod now notes (shard.podTold now (shard.afterClaims now w) key))
        (0, none) := by
  have hnotes := (shard.finalState_reports topology config now w).2.2
  rw [reconcileAt_apply]
  generalize shard.finalState topology config now w = s at hnotes
  exact hnotes

end Reported

end Shard

end TabletFleet
