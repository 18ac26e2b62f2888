import TabletFleet.Proofs.Pass.Claims

set_option autoImplicit false

/-! # The pods of a pass

The second half of a pass makes at most one call for every pod (`Shard.podPlan`). The calls for desired
pods follow from the shard and the store that the first half leaves; those for unwanted ones also from
the status entries, all of which are final by then. -/

namespace TabletFleet

open ManagedObject (metadata mapMetadata key?)
open StateRun

/-! ## After changes of the metadata -/

namespace ObjectMeta

theorem drainFinished_startDrain (m : ObjectMeta) (reason : String) :
    (m.startDrain reason).drainFinished = m.drainFinished := by
  unfold startDrain
  split
  · rfl
  · rw [drainFinished, hasAnnotation, annotation?_annotate, if_neg (by decide)]
    rfl

end ObjectMeta

/-! ## Which calls are made -/

/-- The tablet, marked for a resize of its file system if the claim in the store waits for one. -/
def TabletSpec.resizedIn (t : TabletSpec) (s : MemoryStore) (key : ObjectKey) : TabletSpec :=
  t.markResize (if s.rejects .get key.name then none else s.fetch? Claim key)

/-- The status of a tablet without a pod. -/
def TabletStatus.notRunning (t : TabletStatus) : TabletStatus :=
  { t with running := .no, ready := .no, available := .no }

namespace Shard

/-- The next state of a live desired pod, before its rollout markers are set. -/
def podNext (shard : Shard) (t : TabletSpec) (p : Pod) : Pod :=
  (p.updateInPlace t).stampGeneration shard.generation

/-- The call for the pod of a desired tablet. -/
def podAction (shard : Shard) (now : Timestamp) (s : MemoryStore) (key : ObjectKey)
    (live : Option Pod) : Action Pod :=
  match shard.byKey.get? key with
  | none => .rest
  | some t =>
    match live with
    | none => .create (t.newPod key)
    | some p =>
      (shard.objectSet now shard.keys).updateAction p (shard.podNext t p)
        ((shard.podNext t p).update (t.resizedIn s key))

/-- Whether an unwanted pod's tablet is the primary. -/
def primaryCheck (shard : Shard) (topology : Topology) (config : PassConfig) (p : Pod) :
    PrimaryCheck :=
  match TabletAlias.ofLabels? p.metadata.labels with
  | none => .unknown
  | some tablet =>
    .ofRecord tablet
      (topology.lookup ⟨shard.keyspaceName, shard.spec.name⟩ config.lookupTimeout)

/-- An unwanted pod made ready for going, and the verdict on it. -/
def podPrepared (shard : Shard) (topology : Topology) (config : PassConfig)
    (desired : OrdMap String TabletStatus) (p : Pod) : Pod × Verdict :=
  if p.metadata.drainFinished then
    (p, Turndown.afterDrain (shard.primaryCheck topology config p) desired)
  else
    ({ p with metadata := p.metadata.startDrain Turndown.drainReason }, .refuse Turndown.draining)

/-- The call for an unwanted pod. -/
def podTurnDown (shard : Shard) (topology : Topology) (config : PassConfig)
    (desired : OrdMap String TabletStatus) (p : Pod) : Action Pod :=
  ObjectSet.turnDownAction p (shard.podPrepared topology config desired p)

theorem key?_podNext (shard : Shard) (t : TabletSpec) (p : Pod) :
    key? (shard.podNext t p) = key? p := rfl

theorem podAction_fits {shard : Shard} {now : Timestamp} {s : MemoryStore} {key : ObjectKey}
    {live : Option Pod} (h : ∀ p, live = some p → key? p = some key) :
    (shard.podAction now s key live).Fits key := by
  unfold podAction
  cases shard.byKey.get? key with
  | none => trivial
  | some t =>
      cases live with
      | none => exact rfl
      | some p =>
          have hnext : key? (shard.podNext t p) = some key := h p rfl
          exact ObjectSet.updateAction_fits _ _ hnext

theorem afterDrain_eq_allow {check : PrimaryCheck} {desired : OrdMap String TabletStatus} :
    Turndown.afterDrain check desired = .allow ↔
      check = .notPrimary ∧ Turndown.isHealthy desired = true := by
  cases check with
  | primary => simp [Turndown.afterDrain]
  | unknown => simp [Turndown.afterDrain]
  | notPrimary =>
      simp only [Turndown.afterDrain, true_and]
      split <;> simp_all

/-- An unwanted pod that is not on its way out is drained first. Then it goes, if its tablet is known
not to be the primary and the shard is healthy. -/
theorem podTurnDown_eq (shard : Shard) (topology : Topology) (config : PassConfig)
    (desired : OrdMap String TabletStatus) (p : Pod) :
    shard.podTurnDown topology config desired p =
      if p.metadata.isTerminating then .rest
      else if p.metadata.drainFinished then
        if shard.primaryCheck topology config p = .notPrimary ∧ Turndown.isHealthy desired = true
        then .delete else .rest
      else .replace p { p with metadata := p.metadata.startDrain Turndown.drainReason } := by
  have hterm : ManagedObject.isTerminating p = p.metadata.isTerminating := rfl
  unfold podTurnDown ObjectSet.turnDownAction podPrepared
  rw [hterm]
  by_cases hdrained : p.metadata.drainFinished = true
  · simp only [if_pos hdrained]
    by_cases hgates : shard.primaryCheck topology config p = .notPrimary ∧
        Turndown.isHealthy desired = true
    · rw [if_pos hgates, afterDrain_eq_allow.2 hgates]
    · rw [if_neg hgates]
      rw [← afterDrain_eq_allow] at hgates
      cases hverdict : Turndown.afterDrain (shard.primaryCheck topology config p) desired with
      | allow => exact absurd hverdict hgates
      | refuse why => simp [Action.replace]
  · simp only [if_neg hdrained]

theorem podTurnDown_fits {shard : Shard} {topology : Topology} {config : PassConfig}
    {desired : OrdMap String TabletStatus} {key : ObjectKey} {p : Pod} (h : key? p = some key) :
    (shard.podTurnDown topology config desired p).Fits key := by
  have hdraining : key? { p with metadata := p.metadata.startDrain Turndown.drainReason }
      = some key := by
    unfold ObjectMeta.startDrain
    split <;> exact h
  rw [podTurnDown_eq]
  split
  · trivial
  · split
    · split <;> trivial
    · exact Action.replace_fits hdraining

/-- The pods that a pass finds. -/
def livePods (shard : Shard) (now : Timestamp) (s : MemoryStore) : OrdMap ObjectKey Pod :=
  (shard.objectSet now shard.keys).liveIn s

theorem get?_livePods {shard : Shard} {now : Timestamp} {s : MemoryStore} {key : ObjectKey}
    {p : Pod} : (shard.livePods now s).get? key = some p ↔
      s.fetch? Pod key = some p ∧ p.metadata.isListed shard.ns shard.labels = true :=
  ObjectSet.get?_liveIn_eq_some

/-- All calls on pods, given the status entries that unwanted ones are judged by. -/
def podPlan (shard : Shard) (topology : Topology) (config : PassConfig) (now : Timestamp)
    (desired : OrdMap String TabletStatus) (s : MemoryStore) : Plan Pod :=
  (shard.objectSet now shard.keys).plan (shard.livePods now s)
    (fun key => shard.podAction now s key ((shard.livePods now s).get? key))
    (fun _ => shard.podTurnDown topology config desired)
    (fun _ _ => podAction_fits fun _ hp => s.pods.keyed (get?_livePods.1 hp).1)
    (fun _ _ hp => podTurnDown_fits (s.pods.keyed (get?_livePods.1 hp).1))

section Plan

variable {shard : Shard} {topology : Topology} {config : PassConfig} {now : Timestamp}
variable {desired : OrdMap String TabletStatus} {s : MemoryStore}

theorem mem_podPlan {e : ObjectKey × Action Pod} :
    e ∈ (shard.podPlan topology config now desired s).entries ↔
      (e.1 ∈ shard.keys ∧ e.2 = shard.podAction now s e.1 ((shard.livePods now s).get? e.1)) ∨
        (e.1 ∉ shard.keys ∧ ∃ p, (shard.livePods now s).get? e.1 = some p ∧
          e.2 = shard.podTurnDown topology config desired p) := by
  unfold podPlan ObjectSet.plan
  rw [ObjectSet.mem_calls, objectSet]

theorem notMem_podPlan {key : ObjectKey} (hkey : key ∉ shard.keys)
    (hlive : (shard.livePods now s).get? key = none) :
    key ∉ (shard.podPlan topology config now desired s).entries.map (·.1) := by
  rintro hmem
  obtain ⟨e, he, rfl⟩ := List.mem_map.1 hmem
  rcases mem_podPlan.1 he with ⟨hdesired, -⟩ | ⟨-, p, hp, -⟩
  · exact hkey hdesired
  · rw [hlive] at hp
    cases hp

end Plan

end Shard

/-! ## The callbacks -/

section Callbacks

variable {shard : Shard} {topology : Topology} {config : PassConfig} {now : Timestamp}
variable {key : ObjectKey} {s : PassState MemoryStore}

theorem checkResize_apply (ns : String) (t : TabletSpec) :
    t.checkResize (passCalls Claim) ns s = (t.resizedIn s.world (t.key ns), s) := by
  have hget : (passCalls Claim).get (t.key ns) s = (s.world.get Claim (t.key ns), s) := rfl
  unfold TabletSpec.checkResize TabletSpec.resizedIn
  cases htemplate : t.claimTemplate with
  | none =>
      have htarget : ∀ c : Claim, c.resizeTarget? t = none := by
        intro c
        rw [Claim.resizeTarget?, htemplate]
        rfl
      have hmark : ∀ claim : Option Claim, t.markResize claim = t := by
        intro claim
        unfold TabletSpec.markResize
        cases claim with
        | none => rfl
        | some c => rw [Option.bind_some, htarget]
      rw [hmark, if_pos (by rfl), pure_apply]
  | some template =>
      rw [if_neg (by simp), bind_apply, hget, MemoryStore.get, MemoryStore.rejection?_eq]
      by_cases hr : s.world.rejects .get (t.key ns).name = true
      · simp only [hr, if_true, pure_apply, TabletSpec.markResize, Option.bind_none]
      · simp only [hr, Bool.false_eq_true, if_false, pure_apply]

theorem newObject_pod_apply (t : TabletSpec) (ht : s.tablets.get? key = some t) :
    (podStrategy (shard.input topology config now)).newObject key s =
      (some (t.newPod key), s.modifyTablet key (·.notRunning)) := by
  simp only [podStrategy, bind_apply, get_apply, modify_apply, pure_apply,
    PassState.tablets_modifyTablet, ht, Option.map_some]
  rfl

theorem updateInPlace_pod_apply {t : TabletSpec} (ht : s.tablets.get? key = some t) (p : Pod) :
    (podStrategy (shard.input topology config now)).updateInPlace key p s =
      (shard.podNext t p, s) := by
  simp only [podStrategy, bind_apply, get_apply, pure_apply, ht]
  rfl

theorem updateAnew_pod_apply {t : TabletSpec} (ht : s.tablets.get? key = some t) (p : Pod) :
    (podStrategy (shard.input topology config now)).updateAnew key p s =
      (p.update (t.resizedIn s.world (t.key shard.ns)),
        { s with tablets := s.tablets.insert key (t.resizedIn s.world (t.key shard.ns)) }) := by
  simp only [podStrategy, bind_apply, get_apply, ht]
  show ((t.checkResize (passCalls Claim) shard.ns >>= fun t =>
    modify (fun s => { s with tablets := s.tablets.insert key t }) >>= fun _ =>
      pure (p.update t) : StateM (PassState MemoryStore) Pod)) s = _
  rw [bind_apply, checkResize_apply]
  rfl

theorem prepareForTurndown_pod_apply (p : Pod) :
    (podStrategy (shard.input topology config now)).prepareForTurndown key p s =
      (shard.podPrepared topology config s.status.tablets p, s) := by
  simp only [podStrategy, bind_apply, get_apply, Turndown.pod, Shard.podPrepared]
  by_cases hdrained : p.metadata.drainFinished = true
  · rw [if_pos hdrained, if_pos hdrained]
    unfold Shard.primaryCheck
    cases TabletAlias.ofLabels? p.metadata.labels <;> rfl
  · rw [if_neg hdrained, if_neg hdrained]
    rfl

theorem identity_resizedIn (t : TabletSpec) (w : MemoryStore) (key : ObjectKey) :
    (t.resizedIn w key).identity = t.identity := by
  unfold TabletSpec.resizedIn TabletSpec.markResize
  split <;> rfl

/-- What is observed of a pod shows in the status entry, and in notes on other things. -/
theorem observePod_eq {σ : Type} (s : PassState σ) (key : ObjectKey) (p : Pod) (now : Timestamp) :
    ∃ result lowestPodGeneration, s.observePod key p now =
      { s.modifyTablet key (·.observePod p now) with
        result
        status := { (s.modifyTablet key (·.observePod p now)).status with lowestPodGeneration } } := by
  unfold PassState.observePod
  generalize s.modifyTablet key (·.observePod p now) = s
  cases p.observedGeneration? with
  | none => split <;> exact ⟨_, _, rfl⟩
  | some g =>
      simp only [ShardStatus.observeGeneration]
      split <;> split <;> exact ⟨_, _, rfl⟩

/-- What changes of status entries, marks on the tablet and notes on other things do not break, no
callback for pods breaks. -/
theorem podStrategy_keeps {Q : PassState MemoryStore → Prop}
    (hmodify : ∀ s f, Q s → Q (s.modifyTablet key f))
    (hmark : ∀ s t t', s.tablets.get? key = some t → t'.identity = t.identity → Q s →
      Q { s with tablets := s.tablets.insert key t' })
    (hnote : ∀ s result cells orphanedTablets lowestPodGeneration, Q s →
      Q { s with result, cells, status := { s.status with orphanedTablets, lowestPodGeneration } }) :
    (podStrategy (shard.input topology config now)).Keeps key Q where
  newObject s hs := hmodify s _ hs
  updateInPlace p s hs := by
    simp only [podStrategy, bind_apply, get_apply]
    cases s.tablets.get? key <;> exact hs
  updateAnew p s hs := by
    cases ht : s.tablets.get? key with
    | none =>
        simp only [podStrategy, bind_apply, get_apply, ht]
        exact hs
    | some t =>
        rw [updateAnew_pod_apply ht]
        exact hmark s t _ ht (identity_resizedIn ..) hs
  status p s hs := by
    obtain ⟨result, lowest, hobserved⟩ := observePod_eq s key p now
    show Q (s.observePod key p now)
    rw [hobserved]
    exact hnote _ result _ _ lowest (hmodify s _ hs)
  orphanStatus p why s hs :=
    hnote s s.result _ _ s.status.lowestPodGeneration hs
  prepareForTurndown p s hs := by
    rw [prepareForTurndown_pod_apply]
    exact hs
  objectError e s hs := hmodify s _ hs

end Callbacks

/-! ## Visits to desired pods -/

/-- What stays as it is while desired pods are visited. -/
structure PodsVisited (shard : Shard) (w : MemoryStore) (s : PassState MemoryStore) : Prop where
  entered : s.Entered shard
  claims : s.world.claims = w.claims
  rejections : s.world.rejections = w.rejections

/-- What a visit to the pod at a key leaves of the state in which it starts, apart from the world. -/
structure PodVisited (shard : Shard) (key : ObjectKey) (start : PassState MemoryStore)
    (w : MemoryStore) (s : PassState MemoryStore) : Prop where
  entered : s.Entered shard
  world : s.world = w
  tablets : ∀ k, k ≠ key → s.tablets.get? k = start.tablets.get? k
  ready : ∀ k, k ≠ key → s.readyAt shard k = start.readyAt shard k

section Desired

variable {shard : Shard} {topology : Topology} {config : PassConfig} {now : Timestamp}
variable {key : ObjectKey}

theorem PodVisited.keeps (start : PassState MemoryStore) (w : MemoryStore) :
    (podStrategy (shard.input topology config now)).Keeps key
      (PodVisited shard key start w) := by
  refine podStrategy_keeps ?_ ?_ ?_
  · rintro s f ⟨entered, world, tablets, ready⟩
    refine ⟨entered.modifyTablet key f, ?_, fun k hk => ?_, fun k hk => ?_⟩
    · rw [PassState.world_modifyTablet, world]
    · rw [PassState.tablets_modifyTablet, tablets k hk]
    · rw [entered.readyAt_modifyTablet hk, ready k hk]
  · rintro s t t' ht hidentity ⟨entered, world, tablets, ready⟩
    refine ⟨entered.mark ht hidentity, world, fun k hk => ?_, ready⟩
    rw [OrdMap.get?_insert, if_neg hk, tablets k hk]
  · rintro s result cells orphaned lowest ⟨entered, world, tablets, ready⟩
    exact ⟨⟨entered.texts, entered.entries⟩, world, tablets, ready⟩

theorem PodVisited.act {start s : PassState MemoryStore} {w : MemoryStore}
    (h : PodVisited shard key start w s) (a : Action Pod) :
    PodVisited shard key start (a.perform key w) (s.act a key) :=
  ⟨⟨h.entered.texts, h.entered.entries⟩, congrArg (a.perform key) h.world, h.tablets, h.ready⟩

theorem resizedIn_congr {s w : MemoryStore} (hclaims : s.claims = w.claims)
    (hrejections : s.rejections = w.rejections) (t : TabletSpec) (key : ObjectKey) :
    t.resizedIn s key = t.resizedIn w key := by
  have hfetch : s.fetch? Claim key = w.fetch? Claim key := congrArg (·.get? key) hclaims
  rw [TabletSpec.resizedIn, TabletSpec.resizedIn, hfetch, MemoryStore.rejects, hrejections,
    MemoryStore.rejects]

theorem desiredAction_pod {w : MemoryStore} {s : PassState MemoryStore}
    (h : PodsVisited shard w s) (hkey : key ∈ shard.keys)
    (htablet : s.tablets.get? key = shard.byKey.get? key) (live : Option Pod) :
    ObjectSet.desiredAction (podStrategy (shard.input topology config now))
        (shard.objectSet now shard.keys) live key s
      = shard.podAction now w key live := by
  obtain ⟨t, ht⟩ := Shard.exists_byKey hkey
  have hat : s.tablets.get? key = some t := htablet.trans ht
  have htkey : t.key shard.ns = key := (Shard.of_byKey ht).2
  simp only [Shard.podAction, ht]
  cases live with
  | none => simp only [ObjectSet.desiredAction, newObject_pod_apply t hat, ObjectSet.createAction]
  | some p =>
      simp only [ObjectSet.desiredAction, updateInPlace_pod_apply hat,
        updateAnew_pod_apply hat, htkey, resizedIn_congr h.claims h.rejections]

variable (topology config now) in
/-- A visit to a desired pod makes the call that is planned, and concerns no other tablet. -/
theorem visitDesired_pod {w : MemoryStore} {s : PassState MemoryStore} (h : PodsVisited shard w s)
    (hkey : key ∈ shard.keys) (htablet : s.tablets.get? key = shard.byKey.get? key)
    (live : OrdMap ObjectKey Pod) :
    PodVisited shard key s ((shard.podAction now w key (live.get? key)).perform key s.world)
      (ObjectSet.visitDesired (passCalls Pod) (podStrategy (shard.input topology config now))
        (shard.objectSet now shard.keys) live key s).2 := by
  refine ObjectSet.visitDesired_rule (PodVisited.keeps s s.world) (PodVisited.keeps s _) _ _
    ⟨h.entered, rfl, fun _ _ => rfl, fun _ _ => rfl⟩ fun t ht => ?_
  rw [desiredAction_pod h hkey htablet]
  exact ht.act _

/-! ## What is reported of desired pods -/

/-- A desired pod that was found and serves, and that was not deleted. -/
def Pod.RemainsReady (live : Option Pod) (a : Action Pod) (rejectsDelete : Bool) : Prop :=
  ∃ p, live = some p ∧ p.isServing = true ∧ (a = .delete → rejectsDelete = true)

theorem remainsReady_replace (p current next : Pod) (rejectsDelete : Bool) :
    Pod.RemainsReady (some p) (.replace current next) rejectsDelete ↔ p.isServing = true := by
  constructor
  · rintro ⟨_, hp, hserving, -⟩
    rw [Option.some.inj hp]
    exact hserving
  · exact fun hserving => ⟨p, rfl, hserving, fun h => absurd h (Action.replace_ne_delete _ _)⟩

theorem remainsReady_delete (p : Pod) (rejectsDelete : Bool) :
    Pod.RemainsReady (some p) .delete rejectsDelete ↔
      (rejectsDelete && p.isServing) = true := by
  rw [Bool.and_eq_true]
  constructor
  · rintro ⟨_, hp, hserving, hrejects⟩
    rw [Option.some.inj hp]
    exact ⟨hrejects rfl, hserving⟩
  · exact fun ⟨hrejects, hserving⟩ => ⟨p, rfl, hserving, fun _ => hrejects⟩

theorem isServing_stampedAs (stamp : Stamp) (isNew : Bool) (p : Pod) :
    (stampedAs stamp isNew p).isServing = p.isServing := rfl

section Reported

variable {s : PassState MemoryStore}

theorem entered_act (h : s.Entered shard) (a : Action Pod) (key : ObjectKey) :
    (s.act a key).Entered shard :=
  ⟨h.texts, h.entries⟩

theorem readyAt_observePod (h : s.Entered shard) (hkey : key ∈ shard.keys) (p : Pod)
    (now : Timestamp) :
    (s.observePod key p now).readyAt shard key = some (.ofBool p.isServing) := by
  obtain ⟨result, lowest, hobserved⟩ := observePod_eq s key p now
  obtain ⟨ready, hready⟩ := h.exists_readyAt hkey
  have hmodified := h.readyAt_modifyTablet_self key (f := (·.observePod p now))
    (g := fun _ => .ofBool p.isServing) fun _ => rfl
  rw [hready, Option.map_some] at hmodified
  rw [hobserved]
  exact hmodified

/-- A failed call is noted in the status entry, of which it leaves the rest. -/
theorem readyAt_objectError (h : s.Entered shard) (key : ObjectKey) (e : ObjectError) :
    (s.modifyTablet key fun t => { t with lastError := some e.message }).readyAt shard key
      = s.readyAt shard key := by
  have hmodified := h.readyAt_modifyTablet_self key
    (f := fun t => { t with lastError := some e.message }) (g := id) fun _ => rfl
  rw [Option.map_id, id] at hmodified
  exact hmodified

theorem readyAt_create (h : s.Entered shard) (hkey : key ∈ shard.keys)
    (htablet : s.tablets.get? key = shard.byKey.get? key) :
    (ObjectSet.create (passCalls Pod) (podStrategy (shard.input topology config now)) key
      s).2.readyAt shard key = some .no := by
  obtain ⟨t, ht⟩ := Shard.exists_byKey hkey
  obtain ⟨ready, hready⟩ := h.exists_readyAt hkey
  have hnone := h.readyAt_modifyTablet_self key (f := (·.notRunning)) (g := fun _ => .no)
    fun _ => rfl
  rw [hready, Option.map_some] at hnone
  have hentered := entered_act (h.modifyTablet key (·.notRunning)) (.create (t.newPod key)) key
  simp only [ObjectSet.create, bind_apply, newObject_pod_apply t (htablet.trans ht),
    ObjectSet.create_apply key]
  cases hcreated : ((MemoryStore.calls Pod).create (t.newPod key)
      (s.modifyTablet key (·.notRunning)).world).1 with
  | ok created =>
      have hnew : key? (t.newPod key) = some key := rfl
      have hanswer := MemoryStore.create_answer hnew hcreated
      refine (readyAt_observePod hentered hkey created now).trans ?_
      rw [hanswer, isServing_stampedAs]
      rfl
  | error e => exact (readyAt_objectError hentered key _).trans hnone

variable (topology config now) in
theorem readyAt_store (h : s.Entered shard) (hkey : key ∈ shard.keys) {current next : Pod}
    (hnext : key? next = some key) (hserving : next.isServing = current.isServing) :
    (ObjectSet.store (passCalls Pod) (podStrategy (shard.input topology config now)) key current
      next s).2.readyAt shard key = some (.ofBool current.isServing) := by
  unfold ObjectSet.store
  by_cases heq : next = current
  · rw [if_pos heq]
    exact readyAt_observePod h hkey current now
  · have hentered := entered_act h (.update next) key
    simp only [if_neg heq, bind_apply, ObjectSet.update_apply key]
    cases hwritten : ((MemoryStore.calls Pod).update next s.world).1 with
    | ok written =>
        have hanswer := MemoryStore.update_answer hnext hwritten
        refine (readyAt_observePod hentered hkey written now).trans ?_
        rw [hanswer, isServing_stampedAs, hserving]
    | error e => exact readyAt_observePod (hentered.modifyTablet key _) hkey current now

variable (topology config now) in
theorem readyAt_recreate (h : s.Entered shard) (hkey : key ∈ shard.keys) (next : Pod) :
    (ObjectSet.recreate (passCalls Pod) (podStrategy (shard.input topology config now)) now key
      next s).2.readyAt shard key
      = some (.ofBool (s.world.rejects .delete key.name && next.isServing)) := by
  have hentered := entered_act h .delete key
  simp only [ObjectSet.recreate, bind_apply, ObjectSet.delete_apply key,
    MemoryStore.calls_delete_apply]
  by_cases hr : s.world.rejects .delete key.name = true
  · rw [if_pos hr, hr, Bool.true_and]
    exact readyAt_observePod (hentered.modifyTablet key _) hkey next now
  · rw [if_neg hr, Bool.eq_false_iff.2 hr, Bool.false_and]
    refine (readyAt_observePod hentered hkey _ now).trans ?_
    -- what is reported is a pod on its way out, which does not serve
    have hgone : (mapMetadata (fun m =>
        { m with deletionTimestamp := m.deletionTimestamp.or (some now) }) next).isServing
          = false := by
      have hterm : (next.metadata.deletionTimestamp.or (some now)).isSome = true := by
        cases next.metadata.deletionTimestamp <;> rfl
      exact (congrArg (fun b => next.isReady && !b) hterm).trans (Bool.and_false _)
    exact congrArg (fun b => some (ConditionStatus.ofBool b)) hgone

variable (topology config now) in
/-- After its visit a desired pod is reported as ready just when it was found, serves and was not
deleted. -/
theorem readyAt_visitDesired {w : MemoryStore} (h : PodsVisited shard w s)
    (hkey : key ∈ shard.keys) (htablet : s.tablets.get? key = shard.byKey.get? key)
    {live : OrdMap ObjectKey Pod} (hlive : ∀ p, live.get? key = some p → key? p = some key) :
    (ObjectSet.visitDesired (passCalls Pod) (podStrategy (shard.input topology config now))
        (shard.objectSet now shard.keys) live key s).2.readyAt shard key = some .yes ↔
      Pod.RemainsReady (live.get? key) (shard.podAction now w key (live.get? key))
        (w.rejects .delete key.name) := by
  obtain ⟨t, ht⟩ := Shard.exists_byKey hkey
  have hat : s.tablets.get? key = some t := htablet.trans ht
  have htkey : t.key shard.ns = key := (Shard.of_byKey ht).2
  have hrejects : s.world.rejects .delete key.name = w.rejects .delete key.name := by
    rw [MemoryStore.rejects, h.rejections, MemoryStore.rejects]
  have hyes : ∀ b, some (ConditionStatus.ofBool b) = some .yes ↔ b = true := by decide
  unfold ObjectSet.visitDesired
  cases hp : live.get? key with
  | none =>
      rw [readyAt_create h.entered hkey htablet]
      simp [Pod.RemainsReady]
  | some p =>
      have hnext : key? (shard.podNext t p) = some key := hlive p hp
      have hresized : (t.resizedIn s.world key).identity = t.identity := identity_resizedIn ..
      have hentered := h.entered.mark hat hresized
      simp only [Shard.podAction, ht, ObjectSet.update, bind_apply, updateInPlace_pod_apply hat,
        updateAnew_pod_apply hat, htkey, resizedIn_congr h.claims h.rejections]
      rw [resizedIn_congr h.claims h.rejections] at hentered
      unfold ObjectSet.updateAction
      by_cases hpending : (ObjectSet.pendingChanges
          ((shard.podNext t p).update (t.resizedIn w key)) (shard.podNext t p)).isEmpty = true
      · have hkept : (mapMetadata (·.unschedule) (shard.podNext t p)).isServing = p.isServing := rfl
        rw [if_pos hpending, if_pos hpending, remainsReady_replace,
          readyAt_store topology config now hentered hkey
            ((ManagedObject.key?_unschedule _).trans hnext) hkept]
        exact hyes _
      · rw [if_neg hpending, if_neg hpending]
        by_cases hrelease : ((shard.objectSet now shard.keys).releaseImmediately
            || (metadata p).released) = true
        · rw [if_pos hrelease, if_pos hrelease, remainsReady_delete, ← hrejects]
          have hgone := readyAt_recreate topology config now hentered hkey (shard.podNext t p)
          exact (iff_of_eq (congrArg (· = some ConditionStatus.yes) hgone)).trans (hyes _)
        · have hkept (changes : String) :
              (mapMetadata (·.schedule changes) (shard.podNext t p)).isServing = p.isServing := rfl
          rw [if_neg hrelease, if_neg hrelease, remainsReady_replace,
            readyAt_store topology config now hentered hkey
              ((ManagedObject.key?_schedule _ _).trans hnext) (hkept _)]
          exact hyes _

end Reported

end Desired

/-! ## Visits to unwanted pods -/

/-- What stays as it is while unwanted pods are visited: the entries of the desired ones. -/
structure OrphansVisited (shard : Shard) (desired : OrdMap String TabletStatus)
    (s : PassState MemoryStore) : Prop where
  entries : s.status.tablets = desired
  tablets : ∀ key, key ∉ shard.keys → s.tablets.get? key = none

section Unwanted

variable {shard : Shard} {topology : Topology} {config : PassConfig} {now : Timestamp}
variable {key : ObjectKey} {desired : OrdMap String TabletStatus}

theorem OrphansVisited.keeps (hkey : key ∉ shard.keys) (w : MemoryStore) :
    (podStrategy (shard.input topology config now)).Keeps key
      fun s => OrphansVisited shard desired s ∧ s.world = w := by
  refine podStrategy_keeps ?_ ?_ ?_
  · rintro s f ⟨h, hworld⟩
    rw [PassState.modifyTablet_of_none (h.tablets key hkey)]
    exact ⟨h, hworld⟩
  · rintro s t t' ht - ⟨h, -⟩
    rw [h.tablets key hkey] at ht
    cases ht
  · rintro s result cells orphaned lowest ⟨h, hworld⟩
    exact ⟨⟨h.entries, h.tablets⟩, hworld⟩

variable (topology config now) in
/-- A visit to an unwanted pod makes the call that is planned. -/
theorem turnDown_pod {s : PassState MemoryStore} (h : OrphansVisited shard desired s)
    (hkey : key ∉ shard.keys) (p : Pod) :
    let s' := (ObjectSet.turnDown (passCalls Pod)
      (podStrategy (shard.input topology config now)) key p s).2
    OrphansVisited shard desired s' ∧
      s'.world = (shard.podTurnDown topology config desired p).perform key s.world := by
  refine ObjectSet.turnDown_rule (OrphansVisited.keeps hkey s.world)
    (OrphansVisited.keeps hkey _) _ ⟨h, rfl⟩ ?_
  rintro t ⟨ht, hworld⟩
  rw [prepareForTurndown_pod_apply, h.entries, ← Shard.podTurnDown]
  exact ⟨⟨ht.entries, ht.tablets⟩, congrArg (Action.perform _ key) hworld⟩

end Unwanted

/-! ## The pods of a pass -/

/-- Every desired pod is there to serve, and stays. -/
def Shard.AllRemainReady (shard : Shard) (now : Timestamp) (w : MemoryStore) : Prop :=
  ∀ key ∈ shard.keys,
    Pod.RemainsReady ((shard.livePods now w).get? key)
      (shard.podAction now w key ((shard.livePods now w).get? key)) (w.rejects .delete key.name)

/-- The visits to desired pods: each acts on the world as planned, and sees to it that its tablet is
reported as ready if it is. -/
def podVisits (shard : Shard) (now : Timestamp) (w : MemoryStore) :
    Visits (PassState MemoryStore) ObjectKey ObjectKey MemoryStore
      (Option TabletSpec × Option ConditionStatus) where
  keyOf := id
  Inv := PodsVisited shard w
  world := (·.world)
  effect key := (shard.podAction now w key ((shard.livePods now w).get? key)).perform key
  view key s := (s.tablets.get? key, s.readyAt shard key)
  after key v := v.2 = some .yes ↔
    Pod.RemainsReady ((shard.livePods now w).get? key)
      (shard.podAction now w key ((shard.livePods now w).get? key)) (w.rejects .delete key.name)

section Phase

variable {shard : Shard} {now : Timestamp} {w : MemoryStore}

theorem podVisits_step (topology : Topology) (config : PassConfig) {key : ObjectKey}
    (hkey : key ∈ shard.keys) {s : PassState MemoryStore} (h : PodsVisited shard w s)
    (htablet : s.tablets.get? key = shard.byKey.get? key) :
    (podVisits shard now w).Step (ObjectSet.visitDesired (passCalls Pod)
      (podStrategy (shard.input topology config now)) (shard.objectSet now shard.keys)
      (shard.livePods now w)) key s := by
  have hlive : ∀ p, (shard.livePods now w).get? key = some p → key? p = some key := fun p hp =>
    w.pods.keyed (Shard.get?_livePods.1 hp).1
  have hfits : (shard.podAction now w key ((shard.livePods now w).get? key)).Fits key :=
    Shard.podAction_fits hlive
  have hvisited := visitDesired_pod topology config now h hkey htablet (shard.livePods now w)
  refine ⟨⟨hvisited.entered, ?_, ?_⟩, hvisited.world, ?_, fun k hk => ?_⟩
  · rw [hvisited.world, Action.claims_perform hfits, h.claims]
  · rw [hvisited.world, Action.rejections_perform hfits, h.rejections]
  · exact readyAt_visitDesired topology config now h hkey htablet hlive
  · exact Prod.ext (hvisited.tablets k hk) (hvisited.ready k hk)

theorem PassState.Entered.orphansVisited {s : PassState MemoryStore} (h : s.Entered shard) :
    OrphansVisited shard s.status.tablets s where
  entries := rfl
  tablets key hkey := by
    have htext := h.texts key
    rw [Shard.textAt, Shard.byKey_eq_none hkey, Option.map_none] at htext
    exact Option.map_eq_none_iff.1 htext

end Phase

/-- The second half of a pass carries out the plan for the pods, given the status entries that it
reports in the end. -/
theorem pods_phase (shard : Shard) (topology : Topology) (config : PassConfig) (now : Timestamp)
    {s : PassState MemoryStore} (hentered : s.Entered shard) (htablets : s.tablets = shard.byKey) :
    let input := shard.input topology config now
    let s' := (PassInput.phase (passCalls Pod) (podStrategy input) input.podSet s).2
    s'.world = (shard.podPlan topology config now s'.status.tablets s.world).run s.world ∧
      (Turndown.isHealthy s'.status.tablets = true ↔ shard.AllRemainReady now s.world) := by
  intro input s'
  let set := shard.objectSet now shard.keys
  let live := shard.livePods now s.world
  have hnodup : (set.keys.eraseDups.map (podVisits shard now s.world).keyOf).Nodup := by
    rw [podVisits, List.map_id]
    exact ObjectSet.nodup_eraseDups _
  obtain ⟨hdesired, hdesiredWorld, hready, -⟩ := mapM_visits (v := podVisits shard now s.world)
    (f := ObjectSet.visitDesired (passCalls Pod) (podStrategy input) set live)
    (s := s) ⟨hentered, rfl, rfl⟩ hnodup fun key hmem t ht hview =>
      podVisits_step topology config (List.mem_eraseDups.1 hmem) ht
        ((congrArg Prod.fst hview).trans (congrArg (·.get? key) htablets))
  -- once the desired pods have been visited, the entries that unwanted ones are judged by are final
  have hstart := hdesired.entered.orphansVisited
  revert hdesiredWorld hready hstart
  generalize hmid : (set.keys.eraseDups.mapM
    (ObjectSet.visitDesired (passCalls Pod) (podStrategy input) set live) s).2 = mid
  intro hdesiredWorld hready hstart
  rw [hmid] at hdesired
  obtain ⟨hunwanted, hunwantedWorld⟩ := mapM_effect (·.world)
    (fun e => (shard.podTurnDown topology config mid.status.tablets e.2).perform e.1)
    (fun e => ObjectSet.turnDown (passCalls Pod) (podStrategy input) e.1 e.2)
    (set.unwanted live) hstart fun e he t ht =>
      turnDown_pod topology config now ht (ObjectSet.mem_unwanted.1 he).2 e.2
  have hs := phase_apply (podStrategy input) input.podSet s
  dsimp only at hs
  have hset : input.podSet = set := rfl
  rw [hset, ObjectSet.visitAll_apply] at hs
  have hlive : set.liveIn s.world = live := rfl
  rw [hlive, hmid] at hs
  rw [show s' = _ from hs]
  refine ⟨?_, ?_⟩
  · have hentries : (shard.podPlan topology config now mid.status.tablets s.world).run s.world =
        Plan.performAll (set.calls live
          (fun key => shard.podAction now s.world key (live.get? key))
          (fun _ => shard.podTurnDown topology config mid.status.tablets)) s.world := rfl
    simp only [hunwanted.entries]
    rw [hentries, ObjectSet.calls, Plan.performAll_append, Plan.performAll_map,
      Plan.performAll_map]
    rw [show mid.world = _ from hdesiredWorld] at hunwantedWorld
    exact hunwantedWorld
  · simp only [hunwanted.entries]
    rw [hdesired.entered.isHealthy_iff]
    exact forall₂_congr fun key hkey => hready key (List.mem_eraseDups.2 hkey)

end TabletFleet
