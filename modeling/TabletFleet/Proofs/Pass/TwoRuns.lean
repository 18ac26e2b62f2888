import TabletFleet.Proofs.Pass.Outcome
import TabletFleet.Proofs.Reconcile.TwoRuns

set_option autoImplicit false

/-! # A pass in two worlds

A pass does not know in which world it runs. Its callbacks agree in any two worlds in which the looks that
they take across kinds, from a claim at its pod and from a pod at its claim, are answered alike
(`claimStrategy_agrees`, `podStrategy_agrees`), and a pass goes as its halves do (`run_related`).

Of stores in memory this tells what a pass depends on: what it reports and what it leaves is determined by
what it finds and by what is stored, stamps apart, at the keys where it desires or finds something
(`Shard.pass_alike`). The looks across kinds go to these keys as well. -/

namespace TabletFleet

open ManagedObject (key?)
open StateRun

/-! ## States alike -/

namespace PassState

variable {σ τ : Type}

/-- The same state in another world. -/
def withWorld (s : PassState σ) (world : τ) : PassState τ := { s with world }

/-- The states differ in their worlds only, and these are related. Of all tablets that are entered something
is known. -/
structure Alike (worlds : σ → τ → Prop) (entered : TabletSpec → Prop) (s : PassState σ)
    (s' : PassState τ) : Prop where
  rest : s' = s.withWorld s'.world
  world : worlds s.world s'.world
  tablets : ∀ key t, s.tablets.get? key = some t → entered t

theorem modifyTablet_withWorld (s : PassState σ) (key : ObjectKey) (f : TabletStatus → TabletStatus)
    (world : τ) : (s.withWorld world).modifyTablet key f = (s.modifyTablet key f).withWorld world := by
  unfold modifyTablet withWorld
  dsimp only
  cases s.tablets.get? key <;> rfl

theorem observePod_withWorld (s : PassState σ) (key : ObjectKey) (p : Pod) (now : Timestamp)
    (world : τ) : (s.withWorld world).observePod key p now = (s.observePod key p now).withWorld world := by
  unfold observePod
  rw [modifyTablet_withWorld]
  generalize s.modifyTablet key (·.observePod p now) = t
  cases p.observedGeneration? <;> dsimp only <;> split <;> rfl

theorem foldl_addTablet_withWorld (ns : String) (ts : List TabletSpec) (s : PassState σ)
    (world : τ) :
    ts.foldl (addTablet ns) (s.withWorld world) = (ts.foldl (addTablet ns) s).withWorld world := by
  induction ts generalizing s with
  | nil => rfl
  | cons t ts ih => exact ih (s.addTablet ns t)

/-- Only the status entry, the notes and the requeue time tell of an observed pod. -/
theorem kept_observePod (s : PassState σ) (key : ObjectKey) (p : Pod) (now : Timestamp) :
    (s.observePod key p now).world = s.world ∧ (s.observePod key p now).tablets = s.tablets := by
  obtain ⟨result, lowestPodGeneration, hobserved⟩ := observePod_eq s key p now
  rw [hobserved]
  exact ⟨world_modifyTablet, tablets_modifyTablet⟩

variable {worlds : σ → τ → Prop} {entered : TabletSpec → Prop} {s : PassState σ} {s' : PassState τ}

/-- What neither depends on the world nor changes it keeps states alike. -/
theorem Alike.map (h : s.Alike worlds entered s') (g : PassState σ → PassState σ)
    (g' : PassState τ → PassState τ)
    (hsame : ∀ t (world : τ), g' (t.withWorld world) = (g t).withWorld world)
    (hworld : (g s).world = s.world)
    (htablets : ∀ key t, (g s).tablets.get? key = some t → entered t) :
    (g s).Alike worlds entered (g' s') := by
  have hrest : g' s' = (g s).withWorld s'.world := by
    conv => lhs; rw [h.rest]
    exact hsame s s'.world
  refine ⟨?_, ?_, htablets⟩
  · rw [hrest]
    rfl
  · rw [hrest, hworld]
    exact h.world

theorem Alike.modifyTablet (h : s.Alike worlds entered s') (key : ObjectKey)
    (f : TabletStatus → TabletStatus) :
    (s.modifyTablet key f).Alike worlds entered (s'.modifyTablet key f) := by
  refine h.map (·.modifyTablet key f) (·.modifyTablet key f)
    (fun t world => t.modifyTablet_withWorld key f world) world_modifyTablet ?_
  rw [tablets_modifyTablet]
  exact h.tablets

theorem Alike.observePod (h : s.Alike worlds entered s') (key : ObjectKey) (p : Pod)
    (now : Timestamp) :
    (s.observePod key p now).Alike worlds entered (s'.observePod key p now) := by
  obtain ⟨hworld, htablets⟩ := s.kept_observePod key p now
  refine h.map (·.observePod key p now) (·.observePod key p now)
    (fun t world => t.observePod_withWorld key p now world) hworld ?_
  rw [htablets]
  exact h.tablets

theorem Alike.addOutcome (h : s.Alike worlds entered s') (outcome : Except ReconcileError SetReport) :
    Alike worlds entered { s with result := s.result.addOutcome outcome }
      { s' with result := s'.result.addOutcome outcome } :=
  h.map (fun t => { t with result := t.result.addOutcome outcome })
    (fun t => { t with result := t.result.addOutcome outcome }) (fun _ _ => rfl) rfl h.tablets

theorem Alike.eq_tablets (h : s.Alike worlds entered s') : s'.tablets = s.tablets :=
  congrArg (·.tablets) h.rest

/-- Acts on related worlds. -/
theorem Alike.onWorld {α β : Type} {V : α → β → Prop} {x : StateM σ α} {y : StateM τ β}
    (h : Related worlds V x y) :
    Related (Alike worlds entered) V (PassState.onWorld x) (PassState.onWorld y) := by
  intro s s' hs
  obtain ⟨hanswer, hworld⟩ := h _ _ hs.world
  refine ⟨hanswer, ?_, hworld, hs.tablets⟩
  conv => lhs; rw [hs.rest]
  rfl

end PassState

/-! ## Callbacks -/

section Worlds

variable {σ τ : Type} {cluster : Cluster σ} {cluster' : Cluster τ} {shard : Shard}
variable {topology : Topology} {config : PassConfig} {now : Timestamp} {key : ObjectKey}
variable {worlds : σ → τ → Prop} {entered : TabletSpec → Prop}

/-- Claims are turned down alike if the pods at their keys are found alike. -/
theorem claimStrategy_agrees {fits : Claim → Prop}
    (hnew : ∀ t c, entered t → t.newClaim? key = some c → fits c)
    (hnext : ∀ t c, entered t → fits c → fits (c.updateInPlace t))
    (hpod : Related (PassState.Alike worlds entered) Eq (Turndown.claim cluster.duringPass.pods key)
      (Turndown.claim cluster'.duringPass.pods key)) :
    (claimStrategy (shard.inputIn cluster topology config now)).Agrees
      (claimStrategy (shard.inputIn cluster' topology config now)) key
      (PassState.Alike worlds entered) fits where
  newObject := by
    refine (Related.of_modify fun s s' hs => hs.modifyTablet key _).bind fun _ _ _ => ?_
    refine .looking fun s s' hs => ?_
    rw [hs.eq_tablets]
    refine .pure ⟨rfl, fun c hc => ?_⟩
    obtain ⟨t, ht, hnewClaim⟩ := Option.bind_eq_some_iff.1 hc
    exact hnew t c (hs.tablets key t ht) hnewClaim
  updateInPlace c hc := by
    refine .looking fun s s' hs => ?_
    rw [hs.eq_tablets]
    cases ht : s.tablets.get? key with
    | none => exact .pure ⟨rfl, hc⟩
    | some t => exact .pure ⟨rfl, hnext t c (hs.tablets key t ht) hc⟩
  updateAnew c := .pure rfl
  status a b h := by
    have hstamps : ∀ c : Claim, (unstamped c).isBound = c.isBound := fun _ => rfl
    have hbound : a.isBound = b.isBound := by rw [← hstamps a, h, hstamps b]
    refine Related.of_modify fun s s' hs => ?_
    rw [hbound]
    exact hs.modifyTablet key _
  orphanStatus a b why _ := .pure rfl
  prepareForTurndown c hc := by
    refine hpod.bind ?_
    rintro verdict _ rfl
    exact .pure ⟨rfl, hc⟩
  objectError e := .of_modify fun s s' hs => hs.modifyTablet key _

/-- Pods are made anew alike if the claims of their tablets are found alike. -/
theorem podStrategy_agrees {fits : Pod → Prop} (hmarks : UnmarkedFits fits)
    (hnew : ∀ t, entered t → fits (t.newPod key))
    (hresize : ∀ t, entered t → Related (PassState.Alike worlds entered) (fun a b => a = b ∧ entered a)
      (t.checkResize cluster.duringPass.claims shard.ns)
      (t.checkResize cluster'.duringPass.claims shard.ns)) :
    (podStrategy (shard.inputIn cluster topology config now)).Agrees
      (podStrategy (shard.inputIn cluster' topology config now)) key
      (PassState.Alike worlds entered) fits where
  newObject := by
    refine (Related.of_modify fun s s' hs => hs.modifyTablet key _).bind fun _ _ _ => ?_
    refine .looking fun s s' hs => ?_
    rw [hs.eq_tablets]
    refine .pure ⟨rfl, fun p hp => ?_⟩
    obtain ⟨t, ht, rfl⟩ := Option.map_eq_some_iff.1 hp
    exact hnew t (hs.tablets key t ht)
  updateInPlace p hp := by
    refine .looking fun s s' hs => ?_
    rw [hs.eq_tablets]
    cases s.tablets.get? key <;> exact .pure ⟨rfl, hmarks p _ _ hp⟩
  updateAnew p := by
    refine .looking fun s s' hs => ?_
    rw [hs.eq_tablets]
    cases ht : s.tablets.get? key with
    | none => exact .pure rfl
    | some t =>
        refine (hresize t (hs.tablets key t ht)).bind ?_
        rintro t' _ ⟨rfl, ht'⟩
        refine (Related.of_modify fun s s' hs => ?_).bind fun _ _ _ => .pure rfl
        refine hs.map (fun s => { s with tablets := s.tablets.insert key t' })
          (fun s => { s with tablets := s.tablets.insert key t' }) (fun _ _ => rfl) rfl ?_
        intro k t'' hk
        rw [OrdMap.get?_insert] at hk
        split at hk
        · rw [← Option.some.inj hk]
          exact ht'
        · exact hs.tablets k t'' hk
  status a b h := by
    have hstamps : ∀ (s : PassState τ) (p : Pod),
        s.observePod key (unstamped p) now = s.observePod key p now := fun _ _ => rfl
    refine Related.of_modify fun s s' hs => ?_
    have hobserved : s'.observePod key b now = s'.observePod key a now := by
      rw [← hstamps s' a, h, hstamps s' b]
    change PassState.Alike worlds entered (s.observePod key a now) (s'.observePod key b now)
    rw [hobserved]
    exact hs.observePod key a now
  orphanStatus a b why h := by
    have hstamps : ∀ (s : PassState τ) (p : Pod),
        s.observeOrphan key (unstamped p) why = s.observeOrphan key p why := fun _ _ => rfl
    refine Related.of_modify fun s s' hs => ?_
    have hobserved : s'.observeOrphan key b why = s'.observeOrphan key a why := by
      rw [← hstamps s' a, h, hstamps s' b]
    rw [hobserved]
    exact hs.map (·.observeOrphan key a why) (·.observeOrphan key a why) (fun _ _ => rfl) rfl hs.tablets
  prepareForTurndown p hp := by
    refine .looking fun s s' hs => ?_
    have hentries : s'.status.tablets = s.status.tablets := congrArg (·.status.tablets) hs.rest
    rw [hentries]
    unfold Turndown.pod
    split
    · cases TabletAlias.ofLabels? p.metadata.labels with
      | none => exact .pure ⟨rfl, hp⟩
      | some tablet => exact .pure ⟨rfl, hp⟩
    · refine .pure ⟨rfl, ?_⟩
      unfold ObjectMeta.startDrain
      split
      · exact hp
      · exact hmarks p _ _ hp
  objectError e := .of_modify fun s s' hs => hs.modifyTablet key _

/-! ## Starts, phases and whole passes -/

/-- Starts in related worlds are alike, if what is to be known of the tablets is. -/
theorem start_alike (hentered : ∀ t ∈ shard.tablets, entered t) {w : σ} {w' : τ} (h : worlds w w') :
    PassState.Alike worlds entered ((shard.inputIn cluster topology config now).start w)
      ((shard.inputIn cluster' topology config now).start w') where
  rest := by
    rw [PassInput.world_start]
    exact PassState.foldl_addTablet_withWorld shard.ns shard.tablets { world := w } w'
  world := by
    rw [PassInput.world_start, PassInput.world_start]
    exact h
  tablets key t ht := by
    rw [PassInput.tablets_start] at ht
    exact hentered t (Shard.of_byKey ht).1

/-- A phase goes as its sweep does. -/
theorem phase_related {K : Type} [ManagedObject K] [DecidableEq K]
    {store : ObjectStore (PassState σ) K} {store' : ObjectStore (PassState τ) K}
    {strategy : Strategy (PassState σ) K} {strategy' : Strategy (PassState τ) K} {set : ObjectSet}
    (h : Related (PassState.Alike worlds entered) Eq (set.reconcile store strategy)
      (set.reconcile store' strategy')) :
    Related (PassState.Alike worlds entered) Eq (PassInput.phase store strategy set)
      (PassInput.phase store' strategy' set) := by
  unfold PassInput.phase
  refine h.bind ?_
  rintro outcome _ rfl
  exact .of_modify fun s s' hs => hs.addOutcome outcome

/-- States that are alike are reported alike. -/
theorem report_alike {s : PassState σ} {s' : PassState τ} (h : s.Alike worlds entered s') :
    PassInput.report s' = PassInput.report s := by
  rw [h.rest]
  rfl

/-- A pass goes as its phases do. -/
theorem run_related (hentered : ∀ t ∈ shard.tablets, entered t)
    (h : Related (PassState.Alike worlds entered) Eq (shard.inputIn cluster topology config now).phases
      (shard.inputIn cluster' topology config now).phases) :
    Related worlds Eq (shard.inputIn cluster topology config now).run
      (shard.inputIn cluster' topology config now).run := by
  intro w w' hw
  obtain ⟨-, hend⟩ := h _ _ (start_alike hentered hw)
  rw [Shard.run_apply, Shard.run_apply]
  exact ⟨(report_alike hend).symm, hend.world⟩

end Worlds

/-! ## Stores in memory that are alike at some keys -/

section Memory

variable {ns : String} {keys : List ObjectKey} {key : ObjectKey}

/-- The stores are alike at the given keys, among which are those of all tablets that are entered. -/
abbrev AlikeAt (ns : String) (keys : List ObjectKey) :
    PassState MemoryStore → PassState MemoryStore → Prop :=
  PassState.Alike (MemoryStore.AlikeOn keys) fun t => t.key ns ∈ keys

theorem AlikeAt.act {K : Type} [Stored K] [Compared K] {s s' : PassState MemoryStore}
    (h : AlikeAt ns keys s s') (hkey : key ∈ keys) {a : Action K} (ha : a.Fits key) :
    AlikeAt ns keys (s.act a key) (s'.act a key) where
  rest := congrArg (fun t : PassState MemoryStore => t.act a key) h.rest
  world := Compared.performed h.world ha hkey
  tablets := h.tablets

theorem unmarkedFits_key {K : Type} [ManagedObject K] (key : ObjectKey) :
    UnmarkedFits fun object : K => key? object = some key := by
  intro object labels annotations h
  refine (ManagedObject.key?_congr ?_ ?_).trans h <;> rw [ManagedObject.metadata_setMetadata]

theorem passCalls_agrees {K : Type} [Stored K] [Compared K] (hkey : key ∈ keys) :
    (passCalls K).Agrees (passCalls K) key (AlikeAt ns keys) fun object => key? object = some key where
  create object hobject s s' hs := by
    rw [ObjectSet.create_apply key, ObjectSet.create_apply key]
    exact ⟨MemoryStore.create_alike hs.world hkey hobject, AlikeAt.act hs hkey hobject⟩
  update object hobject s s' hs := by
    rw [ObjectSet.update_apply key, ObjectSet.update_apply key]
    exact ⟨MemoryStore.update_alike hs.world hkey hobject, AlikeAt.act hs hkey hobject⟩
  delete s s' hs := by
    rw [ObjectSet.delete_apply, ObjectSet.delete_apply]
    exact ⟨MemoryStore.delete_alike hs.world key, AlikeAt.act (a := .delete) hs hkey trivial⟩

/-- Whether a claim waits for its file system does not depend on its stamps. -/
theorem resizedIn_of_unstamped {w w' : MemoryStore}
    (hrejects : w'.rejects .get key.name = w.rejects .get key.name)
    (hclaim : (w.fetch? Claim key).map unstamped = (w'.fetch? Claim key).map unstamped)
    (t : TabletSpec) : t.resizedIn w' key = t.resizedIn w key := by
  have hmark : ∀ claim : Option Claim, t.markResize claim = t.markResize (claim.map unstamped) := by
    intro claim
    cases claim <;> rfl
  have hmarked : t.markResize (w'.fetch? Claim key) = t.markResize (w.fetch? Claim key) := by
    rw [hmark, ← hclaim, ← hmark]
  rw [TabletSpec.resizedIn, TabletSpec.resizedIn, hrejects]
  split
  · rfl
  · exact hmarked

theorem resizedIn_alike {w w' : MemoryStore} (h : w.AlikeOn keys w') (hkey : key ∈ keys)
    (t : TabletSpec) : t.resizedIn w' key = t.resizedIn w key :=
  resizedIn_of_unstamped (h.rejects .get key.name) (h.claims key hkey) t

theorem key_resizedIn (t : TabletSpec) (w : MemoryStore) (key : ObjectKey) (ns : String) :
    (t.resizedIn w key).key ns = t.key ns := by
  unfold TabletSpec.resizedIn TabletSpec.markResize
  split <;> rfl

variable {shard : Shard} {topology : Topology} {config : PassConfig} {now : Timestamp}

theorem claimStrategy_agrees_inMemory (hkey : key ∈ keys) :
    (claimStrategy (shard.input topology config now)).Agrees
      (claimStrategy (shard.input topology config now)) key (AlikeAt ns keys)
      fun c => key? c = some key := by
  refine claimStrategy_agrees ?_ ?_ ?_
  · intro t c _ hnew
    obtain ⟨template, -, rfl⟩ := Option.map_eq_some_iff.1 hnew
    rfl
  · exact fun t c _ hc => (Shard.key?_updateInPlace c t).trans hc
  · intro s s' hs
    have hlook (s : PassState MemoryStore) : Turndown.claim Cluster.inMemory.duringPass.pods key s
        = (if s.world.rejects .get key.name || (s.world.fetch? Pod key).isSome then
            .refuse Turndown.podExists else .allow, s) := turndown_claim_apply key s
    rw [hlook, hlook, hs.world.rejects, hs.world.isSome_fetch? (K := Pod) hkey]
    exact ⟨rfl, hs⟩

theorem podStrategy_agrees_inMemory :
    (podStrategy (shard.input topology config now)).Agrees
      (podStrategy (shard.input topology config now)) key (AlikeAt shard.ns keys)
      fun p => key? p = some key := by
  refine podStrategy_agrees (unmarkedFits_key key) (fun t _ => rfl) ?_
  intro t ht s s' hs
  have hlook (s : PassState MemoryStore) : t.checkResize Cluster.inMemory.duringPass.claims shard.ns s
      = (t.resizedIn s.world (t.key shard.ns), s) := checkResize_apply shard.ns t
  rw [hlook, hlook, resizedIn_alike hs.world ht]
  refine ⟨⟨rfl, ?_⟩, hs⟩
  rw [key_resizedIn]
  exact ht

end Memory

/-! ## Halves of a pass -/

/-- A phase of a pass goes the same way in both worlds, provided that it finds the same. -/
theorem phase_alike {K : Type} [Stored K] [Compared K] [DecidableEq K]
    (strategy : Strategy (PassState MemoryStore) K) (set : ObjectSet) {ns : String}
    {keys : List ObjectKey} {s s' : PassState MemoryStore} (hs : AlikeAt ns keys s s')
    (h : ∀ key ∈ keys, strategy.Agrees strategy key (AlikeAt ns keys) fun object =>
      key? object = some key)
    (hkeys : set.keys ⊆ keys)
    (hlive : (set.liveIn s'.world : OrdMap ObjectKey K) = set.liveIn s.world)
    (hfound : ∀ key (object : K), (set.liveIn s.world).get? key = some object → key ∈ keys) :
    AlikeAt ns keys (PassInput.phase (passCalls K) strategy set s).2
      (PassInput.phase (passCalls K) strategy set s').2 := by
  have hagrees : ∀ key, key ∈ set.keys ∨ ((set.liveIn s.world : OrdMap ObjectKey K).get? key).isSome = true →
      strategy.Agrees strategy key (AlikeAt ns keys) (fun object => key? object = some key) ∧
        (passCalls K).Agrees (passCalls K) key (AlikeAt ns keys) fun object =>
          key? object = some key := by
    intro key hvisited
    have hkey : key ∈ keys := by
      rcases hvisited with hkey | hsome
      · exact hkeys hkey
      · obtain ⟨object, hobject⟩ := Option.isSome_iff_exists.1 hsome
        exact hfound key object hobject
    exact ⟨h key hkey, passCalls_agrees hkey⟩
  obtain ⟨hvisits, hstate⟩ := ObjectSet.visitAll_related unmarkedFits_key hagrees
    (fun key object hobject => (Stored.table s.world).keyed (ObjectSet.get?_liveIn_eq_some.1 hobject).1)
    s s' hs
  rw [phase_apply, phase_apply, hlive]
  dsimp only
  rw [← hvisits]
  generalize (ObjectSet.visitAll (passCalls K) strategy set (set.liveIn s.world) s).1 = visits
  exact hstate.addOutcome (.ok { kind := ManagedObject.kind K, visits })

namespace Shard

/-! ## Footprints -/

/-- The keys at which a pass finds something. -/
def foundKeys (K : Type) [Stored K] (shard : Shard) (w : MemoryStore) : List ObjectKey :=
  ((Stored.table (K := K) w).entries.filter fun _ object =>
    (ManagedObject.metadata object).isListed shard.ns shard.labels).keys

/-- The keys at which a pass desires or finds something. -/
def footprint (shard : Shard) (w : MemoryStore) : List ObjectKey :=
  shard.keys ++ shard.foundKeys Pod w ++ shard.foundKeys Claim w

section Footprint

variable {shard : Shard} {w : MemoryStore} {key : ObjectKey}

theorem mem_foundKeys {K : Type} [Stored K] :
    key ∈ shard.foundKeys K w ↔ (shard.found K w key).isSome = true := by
  rw [foundKeys, OrdMap.mem_keys, OrdMap.get?_filter]
  rfl

theorem mem_footprint : key ∈ shard.footprint w ↔
    key ∈ shard.keys ∨ (shard.found Pod w key).isSome = true ∨
      (shard.found Claim w key).isSome = true := by
  rw [footprint, List.mem_append, List.mem_append, mem_foundKeys, mem_foundKeys, or_assoc]

theorem mem_footprint_of_livePods {now : Timestamp} {p : Pod}
    (h : (shard.livePods now w).get? key = some p) : key ∈ shard.footprint w := by
  rw [livePods_eq_found] at h
  exact mem_footprint.2 (.inr (.inl (by rw [h, Option.isSome_some])))

theorem mem_footprint_of_liveClaims {now : Timestamp} {c : Claim}
    (h : (shard.liveClaims now w).get? key = some c) : key ∈ shard.footprint w := by
  rw [liveClaims_eq_found] at h
  exact mem_footprint.2 (.inr (.inr (by rw [h, Option.isSome_some])))

end Footprint

/-! ## Whole passes -/

section Pass

variable {shard : Shard} (topology : Topology) (config : PassConfig) (now : Timestamp)
variable {w w' : MemoryStore}

/-- The state at the end of a pass is the same in both worlds, if the pass finds the same in them. -/
theorem finalState_alike (h : w.AlikeOn (shard.footprint w) w')
    (hpods : ∀ key, shard.found Pod w' key = shard.found Pod w key)
    (hclaims : ∀ key, shard.found Claim w' key = shard.found Claim w key) :
    AlikeAt shard.ns (shard.footprint w) (shard.finalState topology config now w)
      (shard.finalState topology config now w') := by
  let input := shard.input topology config now
  have hkeys : shard.keys ⊆ shard.footprint w := fun key hkey => mem_footprint.2 (.inl hkey)
  have hlivePods : shard.livePods now w' = shard.livePods now w :=
    OrdMap.ext_get? fun key => by rw [livePods_eq_found, livePods_eq_found, hpods]
  have hliveClaims : shard.liveClaims now w' = shard.liveClaims now w :=
    OrdMap.ext_get? fun key => by rw [liveClaims_eq_found, liveClaims_eq_found, hclaims]
  have hstart : AlikeAt shard.ns (shard.footprint w) (input.start w) (input.start w') :=
    start_alike (fun t ht => hkeys (List.mem_map_of_mem ht)) h
  have hfoundClaims : ∀ w, (input.claimSet.liveIn (input.start w).world : OrdMap ObjectKey Claim)
      = shard.liveClaims now w := fun w => by
    rw [input.world_start]
    rfl
  have hbetween := phase_alike (claimStrategy input) input.claimSet hstart
    (fun _ hkey => claimStrategy_agrees_inMemory hkey) (List.Subset.trans shard.claimKeys_subset hkeys)
    (by rw [hfoundClaims, hfoundClaims, hliveClaims])
    fun key c hc => mem_footprint_of_liveClaims (by rwa [hfoundClaims] at hc)
  -- no pod has been touched when the second half begins, so it finds those of the beginning
  have hfoundPods : ∀ w, (input.podSet.liveIn (PassInput.phase (passCalls Claim)
      (claimStrategy input) input.claimSet (input.start w)).2.world : OrdMap ObjectKey Pod)
      = shard.livePods now w := fun w => by
    rw [(claims_phase shard topology config now w).2.2]
    exact shard.livePods_afterClaims now w
  exact phase_alike (podStrategy input) input.podSet hbetween (fun _ _ => podStrategy_agrees_inMemory) hkeys
    (by rw [hfoundPods, hfoundPods, hlivePods])
    fun key p hp => mem_footprint_of_livePods (by rwa [hfoundPods] at hp)

/-- *One pass in two worlds.* The answers are the same, and the worlds afterwards are alike if they were
before. -/
theorem pass_alike (h : w.AlikeOn (shard.footprint w) w')
    (hpods : ∀ key, shard.found Pod w' key = shard.found Pod w key)
    (hclaims : ∀ key, shard.found Claim w' key = shard.found Claim w key) :
    (shard.reconcileAt topology config now w').1 = (shard.reconcileAt topology config now w).1 ∧
      (shard.afterPass topology config now w).AlikeOn (shard.footprint w)
        (shard.afterPass topology config now w') := by
  have hfinal := finalState_alike topology config now h hpods hclaims
  rw [afterPass, afterPass, reconcileAt_apply, reconcileAt_apply]
  generalize shard.finalState topology config now w = s at hfinal
  generalize shard.finalState topology config now w' = s' at hfinal
  exact ⟨report_alike hfinal, hfinal.world⟩

end Pass

end Shard

end TabletFleet
