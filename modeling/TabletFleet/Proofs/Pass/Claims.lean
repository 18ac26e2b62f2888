import TabletFleet.Proofs.Json.Paths
import TabletFleet.Proofs.Pass.Tablets
import TabletFleet.Proofs.Reconcile.Listing
import TabletFleet.Proofs.Reconcile.Visit
import TabletFleet.Proofs.Store.Plan

set_option autoImplicit false

/-! # The claims of a pass

The first half of a pass makes at most one call for every claim. Which calls these are can be told from
the shard and the store in which the pass starts (`Shard.claimPlan`), because no visit to a claim
changes the tablets that were entered, a pod or what is rejected (`claims_phase`). -/

namespace TabletFleet

open ManagedObject (metadata mapMetadata key?)
open StateRun

/-! ## The input of a pass over objects in memory -/

namespace Shard

/-- The desired objects of one kind at the given keys. -/
def objectSet (shard : Shard) (now : Timestamp) (keys : List ObjectKey) : ObjectSet where
  ns := shard.ns
  selector := shard.labels
  keys := keys
  releaseImmediately := shard.spec.updateStrategy = .immediate
  now := now

/-- What `reconcileAt` gives to a pass. -/
def input (shard : Shard) (topology : Topology) (config : PassConfig) (now : Timestamp) :
    PassInput MemoryStore where
  cluster := .inMemory
  topology := topology.service
  config := config
  shard := shard
  now := now

/-! ## Which calls are made -/

/-- The call for the claim of a desired tablet. -/
def claimAction (shard : Shard) (key : ObjectKey) (live : Option Claim) : Action Claim :=
  match shard.byKey.get? key with
  | none => .rest
  | some t =>
    match live with
    | none => ObjectSet.createAction (t.newClaim? key)
    | some c => .replace c (mapMetadata (·.unschedule) (c.updateInPlace t))

/-- The call for an unwanted claim: it goes if it is certain that there is no pod at its key. -/
def claimTurnDown (s : MemoryStore) (key : ObjectKey) (c : Claim) : Action Claim :=
  if c.metadata.isTerminating || s.rejects .get key.name || (s.fetch? Pod key).isSome then .rest
  else .delete

theorem key?_updateInPlace (c : Claim) (t : TabletSpec) : key? (c.updateInPlace t) = key? c := by
  unfold Claim.updateInPlace
  split <;> rfl

theorem claimAction_fits {shard : Shard} {key : ObjectKey} {live : Option Claim}
    (h : ∀ c, live = some c → key? c = some key) : (shard.claimAction key live).Fits key := by
  unfold claimAction
  cases shard.byKey.get? key with
  | none => trivial
  | some t =>
      cases live with
      | none =>
          simp only [TabletSpec.newClaim?]
          cases t.claimTemplate with
          | none => trivial
          | some template => exact rfl
      | some c =>
          refine Action.replace_fits ?_
          rw [ManagedObject.key?_unschedule, key?_updateInPlace, h c rfl]

theorem claimTurnDown_fits (s : MemoryStore) (key : ObjectKey) (c : Claim) :
    (claimTurnDown s key c).Fits key := by
  unfold claimTurnDown
  split <;> trivial

/-- The claims that a pass finds. -/
def liveClaims (shard : Shard) (now : Timestamp) (s : MemoryStore) : OrdMap ObjectKey Claim :=
  (shard.objectSet now shard.claimKeys).liveIn s

theorem get?_liveClaims {shard : Shard} {now : Timestamp} {s : MemoryStore} {key : ObjectKey}
    {c : Claim} : (shard.liveClaims now s).get? key = some c ↔
      s.fetch? Claim key = some c ∧ c.metadata.isListed shard.ns shard.labels = true :=
  ObjectSet.get?_liveIn_eq_some

/-- All calls on claims. -/
def claimPlan (shard : Shard) (now : Timestamp) (s : MemoryStore) : Plan Claim :=
  (shard.objectSet now shard.claimKeys).plan (shard.liveClaims now s)
    (fun key => shard.claimAction key ((shard.liveClaims now s).get? key)) (claimTurnDown s)
    (fun _ _ => claimAction_fits fun _ hc => s.claims.keyed (get?_liveClaims.1 hc).1)
    (fun key c _ => claimTurnDown_fits s key c)

theorem mem_claimPlan {shard : Shard} {now : Timestamp} {s : MemoryStore}
    {e : ObjectKey × Action Claim} : e ∈ (shard.claimPlan now s).entries ↔
      (e.1 ∈ shard.claimKeys ∧ e.2 = shard.claimAction e.1 ((shard.liveClaims now s).get? e.1)) ∨
        (e.1 ∉ shard.claimKeys ∧
          ∃ c, (shard.liveClaims now s).get? e.1 = some c ∧ e.2 = claimTurnDown s e.1 c) :=
  ObjectSet.mem_calls

theorem notMem_claimPlan {shard : Shard} {now : Timestamp} {s : MemoryStore} {key : ObjectKey}
    (hkey : key ∉ shard.claimKeys) (hlive : (shard.liveClaims now s).get? key = none) :
    key ∉ (shard.claimPlan now s).entries.map (·.1) :=
  ObjectSet.notMem_calls hkey hlive

end Shard

/-! ## Visits to claims -/

section Visits

variable {shard : Shard} {topology : Topology} {config : PassConfig} {now : Timestamp}

/-- The verdict on an unwanted claim. -/
theorem turndown_claim_apply (key : ObjectKey) (s : PassState MemoryStore) :
    Turndown.claim (passCalls Pod) key s =
      (if s.world.rejects .get key.name || (s.world.fetch? Pod key).isSome then
          .refuse Turndown.podExists else .allow, s) := by
  have hget : (passCalls Pod).get key s = (s.world.get Pod key, s) := rfl
  simp only [Turndown.claim, bind_apply, hget, MemoryStore.get, MemoryStore.rejection?_eq]
  by_cases hr : s.world.rejects .get key.name = true
  · simp only [hr, if_true, Bool.true_or, pure_apply]
  · cases hf : s.world.fetch? Pod key <;>
      simp only [hr, Bool.false_eq_true, if_false, Bool.false_or, Option.isSome_none,
        Option.isSome_some, if_true, pure_apply]

theorem prepareForTurndown_claim_apply (key : ObjectKey) (c : Claim) (s : PassState MemoryStore) :
    (claimStrategy (shard.input topology config now)).prepareForTurndown key c s =
      ((c, if s.world.rejects .get key.name || (s.world.fetch? Pod key).isSome then
          .refuse Turndown.podExists else .allow), s) := by
  show (Turndown.claim (passCalls Pod) key >>= fun verdict => pure (c, verdict) :
    StateM (PassState MemoryStore) _) s = _
  rw [bind_apply, turndown_claim_apply, pure_apply]

/-- What changes of status entries do not break, no callback for claims breaks. -/
theorem claimStrategy_keeps {Q : PassState MemoryStore → Prop} {key : ObjectKey}
    (h : ∀ s f, Q s → Q (s.modifyTablet key f)) :
    (claimStrategy (shard.input topology config now)).Keeps key Q where
  newObject s hs := h s _ hs
  updateInPlace c s hs := by
    simp only [claimStrategy, bind_apply, get_apply]
    cases s.tablets.get? key <;> exact hs
  updateAnew c s hs := hs
  status c s hs := h s _ hs
  orphanStatus c why s hs := hs
  prepareForTurndown c s hs := by
    rw [prepareForTurndown_claim_apply]
    exact hs
  objectError e s hs := h s _ hs

/-- What stays as it is while claims are visited. -/
structure ClaimsVisited (shard : Shard) (w : MemoryStore) (s : PassState MemoryStore) : Prop where
  entered : s.Entered shard
  tablets : s.tablets = shard.byKey
  pods : s.world.pods = w.pods
  rejections : s.world.rejections = w.rejections

theorem ClaimsVisited.keeps (w w' : MemoryStore) (key : ObjectKey) :
    (claimStrategy (shard.input topology config now)).Keeps key
      fun s => ClaimsVisited shard w s ∧ s.world = w' := by
  refine claimStrategy_keeps fun s f hs => ?_
  obtain ⟨⟨entered, tablets, pods, rejections⟩, hworld⟩ := hs
  refine ⟨⟨entered.modifyTablet key f, ?_, ?_, ?_⟩, ?_⟩
  · rw [PassState.tablets_modifyTablet, tablets]
  · rw [PassState.world_modifyTablet, pods]
  · rw [PassState.world_modifyTablet, rejections]
  · rw [PassState.world_modifyTablet, hworld]

theorem ClaimsVisited.act {w : MemoryStore} {s : PassState MemoryStore}
    (h : ClaimsVisited shard w s) {a : Action Claim} {key : ObjectKey} (ha : a.Fits key) :
    ClaimsVisited shard w (s.act a key) where
  entered := ⟨h.entered.texts, h.entered.entries⟩
  tablets := h.tablets
  pods := (Action.pods_perform ha s.world).trans h.pods
  rejections := (Action.rejections_perform ha s.world).trans h.rejections

theorem desiredAction_claim (set : ObjectSet) (live : Option Claim) {key : ObjectKey}
    {s : PassState MemoryStore} (htablets : s.tablets = shard.byKey) (hkey : key ∈ shard.keys) :
    ObjectSet.desiredAction (claimStrategy (shard.input topology config now)) set live key s
      = shard.claimAction key live := by
  obtain ⟨t, ht⟩ := Shard.exists_byKey hkey
  simp only [Shard.claimAction, ht]
  cases live with
  | none =>
      have hnew : ((claimStrategy (shard.input topology config now)).newObject key s).1
          = t.newClaim? key := by
        simp only [claimStrategy, bind_apply, get_apply, modify_apply, pure_apply,
          PassState.tablets_modifyTablet, htablets, ht, Option.bind_some]
      simp only [ObjectSet.desiredAction, hnew]
  | some c =>
      have hnext : ((claimStrategy (shard.input topology config now)).updateInPlace key c s).1
          = c.updateInPlace t := by
        simp only [claimStrategy, bind_apply, get_apply, htablets, ht, pure_apply]
      -- a claim is never made anew, so no change of it is pending
      have hpending : ObjectSet.pendingChanges (c.updateInPlace t) (c.updateInPlace t) = [] :=
        Json.changedPaths_self _
      have hrest := congrArg List.isEmpty hpending
      simp only [ObjectSet.desiredAction, hnext]
      exact if_pos hrest

theorem turnDownAction_claim {w : MemoryStore} {s : PassState MemoryStore}
    (h : ClaimsVisited shard w s) (key : ObjectKey) (c : Claim) :
    ObjectSet.turnDownAction c
        ((claimStrategy (shard.input topology config now)).prepareForTurndown key c s).1
      = Shard.claimTurnDown w key c := by
  have hrejects : s.world.rejects .get key.name = w.rejects .get key.name := by
    rw [MemoryStore.rejects, h.rejections, MemoryStore.rejects]
  have hfetch : s.world.fetch? Pod key = w.fetch? Pod key := congrArg (·.get? key) h.pods
  rw [prepareForTurndown_claim_apply, hrejects, hfetch]
  unfold ObjectSet.turnDownAction Shard.claimTurnDown
  by_cases hterm : c.metadata.isTerminating = true
  · have hterm' : ManagedObject.isTerminating c = true := hterm
    rw [if_pos hterm', hterm, Bool.true_or, Bool.true_or, if_pos rfl]
  · have hterm' : ¬ManagedObject.isTerminating c = true := hterm
    rw [if_neg hterm', Bool.eq_false_iff.2 hterm, Bool.false_or]
    by_cases hkept : (w.rejects .get key.name || (w.fetch? Pod key).isSome) = true
    · rw [if_pos hkept, if_pos hkept]
      exact if_pos rfl
    · rw [if_neg hkept, if_neg hkept]

/-! ## The claims of a pass -/

/-- A visit to a desired claim makes the call that is planned. -/
theorem visitDesired_claim {w : MemoryStore} {s : PassState MemoryStore}
    (h : ClaimsVisited shard w s) {key : ObjectKey} (hkey : key ∈ shard.claimKeys) :
    let s' := (ObjectSet.visitDesired (passCalls Claim)
      (claimStrategy (shard.input topology config now)) (shard.objectSet now shard.claimKeys)
      (shard.liveClaims now w) key s).2
    let a := shard.claimAction key ((shard.liveClaims now w).get? key)
    ClaimsVisited shard w s' ∧ s'.world = a.perform key s.world := by
  refine ObjectSet.visitDesired_rule (ClaimsVisited.keeps w s.world key)
    (ClaimsVisited.keeps w _ key) _ _ ⟨h, rfl⟩ ?_
  rintro t ⟨ht, hworld⟩
  rw [desiredAction_claim _ _ h.tablets (shard.claimKeys_subset hkey)]
  have hfits : (shard.claimAction key ((shard.liveClaims now w).get? key)).Fits key :=
    Shard.claimAction_fits fun _ hc => w.claims.keyed (Shard.get?_liveClaims.1 hc).1
  exact ⟨ht.act hfits, congrArg (Action.perform _ key) hworld⟩

/-- A visit to an unwanted claim makes the call that is planned. -/
theorem turnDown_claim {w : MemoryStore} {s : PassState MemoryStore} (h : ClaimsVisited shard w s)
    (key : ObjectKey) (c : Claim) :
    let s' := (ObjectSet.turnDown (passCalls Claim)
      (claimStrategy (shard.input topology config now)) key c s).2
    ClaimsVisited shard w s' ∧ s'.world = (Shard.claimTurnDown w key c).perform key s.world := by
  refine ObjectSet.turnDown_rule (ClaimsVisited.keeps w s.world key)
    (ClaimsVisited.keeps w _ key) _ ⟨h, rfl⟩ ?_
  rintro t ⟨ht, hworld⟩
  rw [turnDownAction_claim h]
  exact ⟨ht.act (Shard.claimTurnDown_fits w key c), congrArg (Action.perform _ key) hworld⟩

/-- A phase of a pass visits what it lists, and notes what went wrong. -/
theorem phase_apply {K : Type} [Stored K] [DecidableEq K]
    (strategy : Strategy (PassState MemoryStore) K) (set : ObjectSet)
    (s : PassState MemoryStore) :
    (PassInput.phase (passCalls K) strategy set s).2 =
      let visited := ObjectSet.visitAll (passCalls K) strategy set (set.liveIn s.world) s
      { visited.2 with
        result := visited.2.result.addOutcome
          (.ok { kind := ManagedObject.kind K, visits := visited.1 }) } :=
  rfl

/-- The first half of a pass carries out the plan for the claims. -/
theorem claims_phase (shard : Shard) (topology : Topology) (config : PassConfig)
    (now : Timestamp) (w : MemoryStore) :
    let input := shard.input topology config now
    let s := (PassInput.phase (passCalls Claim) (claimStrategy input) input.claimSet
      (input.start w)).2
    s.Entered shard ∧ s.tablets = shard.byKey ∧ s.world = (shard.claimPlan now w).run w := by
  intro input s
  have hworld : (input.start w).world = w := input.world_start w
  have hstart : ClaimsVisited shard w (input.start w) :=
    ⟨input.entered_start w, input.tablets_start w, by rw [hworld], by rw [hworld]⟩
  let set := shard.objectSet now shard.claimKeys
  let live := shard.liveClaims now w
  obtain ⟨hdesired, hdesiredWorld⟩ := mapM_effect (·.world)
    (fun key => (shard.claimAction key (live.get? key)).perform key)
    (ObjectSet.visitDesired (passCalls Claim) (claimStrategy input) set live) set.keys.eraseDups
    hstart fun key hkey t ht => visitDesired_claim ht (List.mem_eraseDups.1 hkey)
  obtain ⟨hunwanted, hunwantedWorld⟩ := mapM_effect (·.world)
    (fun e => (Shard.claimTurnDown w e.1 e.2).perform e.1)
    (fun e => ObjectSet.turnDown (passCalls Claim) (claimStrategy input) e.1 e.2)
    (set.unwanted live) hdesired fun e _ t ht => turnDown_claim ht e.1 e.2
  -- both rounds of visits are planned on the store before the first one
  have hs := phase_apply (claimStrategy input) input.claimSet (input.start w)
  have hlive : input.claimSet.liveIn (input.start w).world = live := by rw [hworld]; rfl
  have hset : input.claimSet = set := rfl
  dsimp only at hs
  rw [hlive, hset, ObjectSet.visitAll_apply] at hs
  rw [show s = _ from hs]
  refine ⟨⟨hunwanted.entered.texts, hunwanted.entered.entries⟩, hunwanted.tablets, ?_⟩
  have hplan : (shard.claimPlan now w).run w =
      Plan.performAll (set.calls live (fun key => shard.claimAction key (live.get? key))
        (Shard.claimTurnDown w)) w := rfl
  rw [hplan, ObjectSet.calls, Plan.performAll_append, Plan.performAll_map, Plan.performAll_map]
  rw [hdesiredWorld, hworld] at hunwantedWorld
  exact hunwantedWorld

end Visits

end TabletFleet
