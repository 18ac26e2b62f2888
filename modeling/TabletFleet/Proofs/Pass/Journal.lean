import TabletFleet.Proofs.EngineAccounting
import TabletFleet.Proofs.Pass.Unwanted
import TabletFleet.Proofs.Reconcile.Journal

set_option autoImplicit false

/-! # Passes with a journal

A pass on stores that keep a journal goes as it does without, in whatever world these stores are
(`PassInput.run_journaled`). The errors that it reports are those of its two halves, and the failures of
each half are the calls of the journal that write and fail. Looking a pod up for its claim and a claim
for its pod are calls as well, but nothing comes of their failures. -/

namespace TabletFleet

open ManagedObject (key?)
open StateRun

/-! ## The journal of a pass -/

section Journaled

variable {σ : Type}

def Cluster.journaled (c : Cluster σ) : Cluster (Journaled σ) where
  pods := c.pods.journaled
  claims := c.claims.journaled

/-- The same pass, on stores that keep a journal. -/
def PassInput.journaled (input : PassInput σ) : PassInput (Journaled σ) where
  cluster := input.cluster.journaled
  topology := input.topology.lift Journaled.onWorld
  config := input.config
  shard := input.shard
  now := input.now

namespace PassState

def journaled (s : PassState σ) (calls : List Call) : PassState (Journaled σ) where
  world := ⟨s.world, calls⟩
  tablets := s.tablets
  status := s.status
  cells := s.cells
  result := s.result

theorem modifyTablet_journaled (s : PassState σ) (calls : List Call) (key : ObjectKey)
    (f : TabletStatus → TabletStatus) :
    (s.journaled calls).modifyTablet key f = (s.modifyTablet key f).journaled calls := by
  unfold modifyTablet
  cases h : s.tablets.get? key <;> simp only [journaled, h]

theorem observePod_journaled (s : PassState σ) (calls : List Call) (key : ObjectKey) (p : Pod)
    (now : Timestamp) :
    (s.journaled calls).observePod key p now = (s.observePod key p now).journaled calls := by
  unfold observePod
  rw [modifyTablet_journaled]
  generalize s.modifyTablet key (·.observePod p now) = t
  cases p.observedGeneration? <;> split <;> rfl

theorem foldl_addTablet_journaled (ns : String) (ts : List TabletSpec) (s : PassState σ)
    (calls : List Call) :
    ts.foldl (addTablet ns) (s.journaled calls) = (ts.foldl (addTablet ns) s).journaled calls := by
  induction ts generalizing s with
  | nil => rfl
  | cons t ts ih => exact ih (s.addTablet ns t)

/-- The errors that have been noted so far. -/
abbrev Erred (errors : List ReconcileError) (s : PassState σ) : Prop := s.result.errors = errors

variable {errors : List ReconcileError} {s : PassState σ}

theorem Erred.observePod (h : s.Erred errors) (key : ObjectKey) (p : Pod) (now : Timestamp) :
    (s.observePod key p now).Erred errors :=
  (congrArg (·.2.2) (sideNotes_observePod s key p now)).trans h

theorem Erred.modifyTablet (h : s.Erred errors) (key : ObjectKey) (f : TabletStatus → TabletStatus) :
    (s.modifyTablet key f).Erred errors :=
  (congrArg (·.2.2) (s.sideNotes_modifyTablet key f)).trans h

end PassState

variable {errors : List ReconcileError}

section Stores

variable {K : Type} [ManagedObject K]

theorem ObjectStore.journals_duringPass (store : ObjectStore σ K) :
    (store.journaled.lift PassState.onWorld).Journals PassState.journaled (PassState.Erred errors)
      (store.lift PassState.onWorld) where
  list _ _ _ _ hs := ⟨_, rfl, rfl, hs⟩
  create _ _ _ hs := ⟨_, rfl, rfl, hs⟩
  update _ _ _ hs := ⟨_, rfl, rfl, hs⟩
  delete _ _ _ hs := ⟨_, rfl, rfl, hs⟩

/-- That an object cannot be looked up is no failure of the pass. -/
theorem ObjectStore.get_duringPass (kind : String) (store : ObjectStore σ K) (key : ObjectKey) :
    Noting PassState.journaled (PassState.Erred errors) (fun _ calls => Accounts kind [] calls)
      ((store.journaled.lift PassState.onWorld).get key) ((store.lift PassState.onWorld).get key) :=
  fun _ _ hs => ⟨_, rfl, .reading rfl _ _ _, hs⟩

end Stores

theorem claimStrategy_journals (input : PassInput σ) :
    (claimStrategy input.journaled).Journals PassState.journaled (PassState.Erred errors)
      (claimStrategy input) where
  newObject key := by
    refine .silent (fun s calls => ?_) (fun s hs => hs.modifyTablet key _) fun s =>
      ⟨.nil, (claimStrategy_keepsKeys input).newObject key s⟩
    simp only [claimStrategy, bind_apply, modify_apply, get_apply, PassState.modifyTablet_journaled]
    rfl
  updateInPlace key c := by
    refine .silent (fun s calls => ?_) (fun s hs => ?_) fun s =>
      ⟨.nil, (claimStrategy_keepsKeys input).updateInPlace key c s⟩
    · simp only [claimStrategy, bind_apply, get_apply, PassState.journaled]
      cases s.tablets.get? key <;> rfl
    · simp only [claimStrategy, bind_apply, get_apply]
      cases s.tablets.get? key <;> exact hs
  updateAnew key c := .pure .nil
  status key c := .silent (fun s calls => congrArg _ (s.modifyTablet_journaled calls key _))
    (fun s hs => hs.modifyTablet key _) fun _ => .nil
  orphanStatus key c why := .pure .nil
  prepareForTurndown key c := by
    have hverdict : Noting PassState.journaled (PassState.Erred errors)
        (fun _ calls => Accounts Claim.kind [] calls)
        (Turndown.claim input.journaled.cluster.duringPass.pods key)
        (Turndown.claim input.cluster.duringPass.pods key) := by
      unfold Turndown.claim
      refine (ObjectStore.get_duringPass Claim.kind input.cluster.pods key).bind fun answer read hread => ?_
      split <;> exact .pure (hread.append .nil)
    exact hverdict.bind fun verdict read hread => .pure ⟨hread.append .nil, rfl⟩
  objectError key e := .silent (fun s calls => congrArg _ (s.modifyTablet_journaled calls key _))
    (fun s hs => hs.modifyTablet key _) fun _ => .nil

/-- The look at a tablet's claim is no failure of the pass, whatever it comes to. -/
theorem TabletSpec.checkResize_journaled (input : PassInput σ) (kind : String) (ns : String)
    (t : TabletSpec) :
    Noting PassState.journaled (PassState.Erred errors) (fun _ calls => Accounts kind [] calls)
      (t.checkResize input.journaled.cluster.duringPass.claims ns)
      (t.checkResize input.cluster.duringPass.claims ns) := by
  unfold TabletSpec.checkResize
  by_cases hnone : t.claimTemplate.isNone = true
  · simp only [if_pos hnone]
    exact .pure .nil
  · simp only [if_neg hnone]
    refine (ObjectStore.get_duringPass kind input.cluster.claims _).bind fun answer read hread => ?_
    cases answer <;> exact .pure (hread.append .nil)

theorem podStrategy_journals (input : PassInput σ) :
    (podStrategy input.journaled).Journals PassState.journaled (PassState.Erred errors)
      (podStrategy input) where
  newObject key := by
    refine .silent (fun s calls => ?_) (fun s hs => hs.modifyTablet key _) fun s =>
      ⟨.nil, (podStrategy_keepsKeys input).newObject key s⟩
    simp only [podStrategy, bind_apply, modify_apply, get_apply, PassState.modifyTablet_journaled]
    rfl
  updateInPlace key p := by
    refine .silent (fun s calls => ?_) (fun s hs => hs) fun s =>
      ⟨.nil, (podStrategy_keepsKeys input).updateInPlace key p s⟩
    simp only [podStrategy, bind_apply, get_apply, PassState.journaled]
    rfl
  updateAnew key p := by
    refine .looking fun s calls => ?_
    dsimp only [PassState.journaled]
    cases s.tablets.get? key with
    | none => exact .pure .nil
    | some t =>
        refine (t.checkResize_journaled input "Pod" input.shard.ns).bind fun t' read hread => ?_
        have hmark : Noting PassState.journaled (PassState.Erred errors)
            (fun _ calls => Accounts "Pod" [] calls)
            (modify fun s : PassState (Journaled σ) =>
              { s with tablets := s.tablets.insert key t' })
            (modify fun s : PassState σ => { s with tablets := s.tablets.insert key t' }) :=
          .silent (fun _ _ => rfl) (fun _ hs => hs) fun _ => .nil
        exact hmark.bind fun _ noted hnoted => .pure (hread.append (hnoted.append .nil))
  status key p := .silent (fun s calls => congrArg _ (s.observePod_journaled calls key p _))
    (fun s hs => hs.observePod key p _) fun _ => .nil
  orphanStatus key p why := .silent (fun _ _ => rfl) (fun _ hs => hs) fun _ => .nil
  prepareForTurndown key p := by
    refine Noting.and_answer ?_ ((podStrategy_keepsKeys input).prepareForTurndown key p)
    refine .looking fun s calls => ?_
    unfold Turndown.pod
    by_cases hdrained : p.metadata.drainFinished = true
    · simp only [if_pos hdrained]
      refine Noting.bind (P := fun _ calls => calls = []) ?_ ?_
      · cases TabletAlias.ofLabels? p.metadata.labels with
        | none => exact .pure rfl
        | some tablet => exact .silent (fun _ _ => rfl) (fun _ hs => hs) fun _ => rfl
      · rintro check _ rfl
        exact .pure .nil
    · simp only [if_neg hdrained]
      exact .pure .nil
  objectError key e := .silent (fun s calls => congrArg _ (s.modifyTablet_journaled calls key _))
    (fun s hs => hs.modifyTablet key _) fun _ => .nil

/-! ## The halves together -/

/-- What a half of a pass adds to the errors. -/
def errorsOf : Except ReconcileError SetReport → List ReconcileError
  | .ok report => report.error?.toList
  | .error e => [e]

theorem PassResult.errors_addOutcome_eq (r : PassResult) (outcome : Except ReconcileError SetReport) :
    (r.addOutcome outcome).errors = r.errors ++ errorsOf outcome := by
  cases outcome with
  | ok report => exact r.errors_addOutcome report
  | error e => rfl

/-- A half of a pass makes its calls, and adds its errors to those that there are. -/
theorem phase_journaled {K : Type} [ManagedObject K] [DecidableEq K]
    {store' : ObjectStore (PassState (Journaled σ)) K} {store : ObjectStore (PassState σ) K}
    {strategy' : Strategy (PassState (Journaled σ)) K} {strategy : Strategy (PassState σ) K}
    (hstore : ∀ errors, store'.Journals PassState.journaled (PassState.Erred errors) store)
    (h : ∀ errors, strategy'.Journals PassState.journaled (PassState.Erred errors) strategy)
    (set : ObjectSet) (s : PassState σ) (calls : List Call) :
    let outcome := (set.reconcile store strategy s).1
    let s' := (PassInput.phase store strategy set s).2
    ∃ more, PassInput.phase store' strategy' set (s.journaled calls)
        = (⟨⟩, s'.journaled (calls ++ more)) ∧
      Accounts (ManagedObject.kind K) (failuresOf outcome) more ∧
      s'.result.errors = s.result.errors ++ errorsOf outcome := by
  intro outcome s'
  obtain ⟨more, hrun, haccounts, herred⟩ :=
    ObjectSet.reconcile_journaled (hstore s.result.errors) (h s.result.errors) set s calls rfl
  refine ⟨more, ?_, haccounts, ?_⟩
  · simp only [PassInput.phase, bind_apply, hrun]
    rfl
  · have hs' : s'.result = (set.reconcile store strategy s).2.result.addOutcome outcome := rfl
    rw [hs', PassResult.errors_addOutcome_eq]
    exact congrArg (· ++ errorsOf outcome) herred

/-- *The journal of a pass.* The pass goes as it does without a journal. Its errors are those of its two
halves, and these account for every call of the journal that writes and fails. -/
theorem PassInput.run_journaled (input : PassInput σ) (w : σ) :
    let start := input.start w
    let claims := (input.claimSet.reconcile input.cluster.duringPass.claims (claimStrategy input) start).1
    let between := (phase input.cluster.duringPass.claims (claimStrategy input) input.claimSet start).2
    let pods := (input.podSet.reconcile input.cluster.duringPass.pods (podStrategy input) between).1
    let outcome := input.run w
    ∃ claimCalls podCalls,
      input.journaled.run ⟨w, []⟩ = (outcome.1, ⟨outcome.2, claimCalls ++ podCalls⟩) ∧
      Accounts Claim.kind (failuresOf claims) claimCalls ∧
      Accounts "Pod" (failuresOf pods) podCalls ∧
      outcome.1.result.errors = errorsOf claims ++ errorsOf pods := by
  intro start claims between pods outcome
  obtain ⟨claimCalls, hclaims, hclaimAccounts, hclaimErrors⟩ := phase_journaled
    (fun _ => ObjectStore.journals_duringPass input.cluster.claims)
    (fun _ => claimStrategy_journals input) input.claimSet start []
  obtain ⟨podCalls, hpods, hpodAccounts, hpodErrors⟩ := phase_journaled
    (fun _ => ObjectStore.journals_duringPass input.cluster.pods)
    (fun _ => podStrategy_journals input) input.podSet between claimCalls
  have hstart : input.journaled.start ⟨w, []⟩ = start.journaled [] :=
    PassState.foldl_addTablet_journaled input.shard.ns input.shard.tablets { world := w } []
  have hempty : start.result.errors = [] :=
    congrArg (·.2.2) (PassState.foldl_addTablet_sideNotes input.shard.ns input.shard.tablets { world := w })
  let s' := (phase input.cluster.duringPass.pods (podStrategy input) input.podSet between).2
  have hplain : outcome = (report s', s'.world) := by
    rw [show outcome = input.run w from rfl, Shard.run_apply, Shard.phases_apply]
  have hnoted : input.journaled.run ⟨w, []⟩ = (report s', ⟨s'.world, claimCalls ++ podCalls⟩) := by
    have hfinal : (input.journaled.phases (start.journaled [])).2
        = s'.journaled (claimCalls ++ podCalls) := by
      rw [Shard.phases_apply]
      exact congrArg Prod.snd ((congrArg (fun end' => phase
        input.journaled.cluster.duringPass.pods (podStrategy input.journaled) input.podSet
          (Prod.snd end')) hclaims).trans hpods)
    rw [Shard.run_apply, hstart, hfinal]
    rfl
  rw [hplain]
  refine ⟨claimCalls, podCalls, hnoted, hclaimAccounts, hpodAccounts, ?_⟩
  have hbetween : between.result.errors = errorsOf claims := by
    refine hclaimErrors.trans ?_
    rw [hempty]
    rfl
  exact hpodErrors.trans (congrArg (· ++ errorsOf pods) hbetween)

end Journaled

end TabletFleet
