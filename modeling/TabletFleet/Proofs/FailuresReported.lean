import TabletFleet.Proofs.Pass.Journal

set_option autoImplicit false

/-! # Failures are reported

A pass that keeps a journal of its calls shows that no failure is lost (`Shard.failures_reported`). Its
errors are the failed writes, by kind and in the order in which they were made, and nothing else. The
last error of a tablet is the failure of its pod's call, or else of its claim's. -/

namespace TabletFleet

/-! ## Failures of a plan -/

namespace Action

variable {K : Type} [Stored K] {a : Action K} {key : ObjectKey} {s : MemoryStore} {e : ObjectError}

theorem key_of_failureIn? (h : a.failureIn? key s = some e) : e.key = key := by
  cases a with
  | rest => cases h
  | create object => rw [failure?_create h]
  | update object => rw [failure?_update h]
  | delete => rw [failure?_delete h]

end Action

namespace Plan

variable {K : Type} [Stored K] (p : Plan K) (s : MemoryStore) {key : ObjectKey}

variable {p s} in
theorem mem_failures {e : ObjectError} :
    e ∈ p.failures s ↔ ∃ a, (e.key, a) ∈ p.entries ∧ a.failureIn? e.key s = some e := by
  rw [failures, List.mem_filterMap]
  constructor
  · rintro ⟨⟨key, a⟩, hmem, he⟩
    obtain rfl := Action.key_of_failureIn? he
    exact ⟨a, hmem, he⟩
  · rintro ⟨a, hmem, he⟩
    exact ⟨(e.key, a), hmem, he⟩

theorem keys_failures_sublist :
    ((p.failures s).map (·.key)).Sublist (p.entries.map (·.1)) := by
  unfold failures
  induction p.entries with
  | nil => exact .slnil
  | cons e entries ih =>
      rw [List.filterMap_cons]
      cases he : e.2.failureIn? e.1 s with
      | none => exact ih.cons _
      | some failure =>
          rw [List.map_cons, List.map_cons, Action.key_of_failureIn? he]
          exact ih.cons_cons _

theorem find?_failures_of_notMem (h : key ∉ p.entries.map (·.1)) :
    (p.failures s).find? (·.key = key) = none := by
  refine List.find?_eq_none.2 fun e he => ?_
  obtain ⟨a, hmem, -⟩ := mem_failures.1 he
  simpa using fun hkey : e.key = key => h (hkey ▸ List.mem_map_of_mem hmem)

/-- The failure at a key is that of the call there. -/
theorem find?_failures {a : Action K} (h : (key, a) ∈ p.entries) :
    (p.failures s).find? (·.key = key) = a.failureIn? key s := by
  have hfound : ∀ e, (p.failures s).find? (·.key = key) = some e → a.failureIn? key s = some e := by
    intro e he
    obtain rfl : e.key = key := by simpa using List.find?_some he
    obtain ⟨a', hmem, hfailure⟩ := mem_failures.1 (List.mem_of_find?_eq_some he)
    -- there is one call only at the key
    obtain rfl : a = a' := congrArg Prod.snd (List.inj_on_of_nodup_map p.nodup h hmem rfl)
    exact hfailure
  cases hfind : (p.failures s).find? (·.key = key) with
  | some e => exact (hfound e hfind).symm
  | none =>
      cases hfailure : a.failureIn? key s with
      | none => rfl
      | some e =>
          obtain rfl := Action.key_of_failureIn? hfailure
          have hmem : e ∈ p.failures s := mem_failures.2 ⟨a, h, hfailure⟩
          simpa using List.find?_eq_none.1 hfind e hmem

end Plan

/-! ## Order -/

/-- The keys are in the order in which objects are visited, each once: first desired ones, in their
order, then others, in ascending order. -/
def InVisitOrder (desired keys : List ObjectKey) : Prop :=
  ∃ first rest, keys = first ++ rest ∧ first.Sublist desired.eraseDups ∧
    rest.Pairwise (fun a b => compare a b = .lt) ∧ ∀ key ∈ rest, key ∉ desired

theorem InVisitOrder.nodup {desired keys : List ObjectKey} (h : InVisitOrder desired keys) :
    keys.Nodup := by
  obtain ⟨first, rest, rfl, hfirst, hascending, hother⟩ := h
  refine List.nodup_append.2 ⟨(ObjectSet.nodup_eraseDups _).sublist hfirst, ?_, ?_⟩
  · refine hascending.imp fun hlt heq => ?_
    rw [heq, Std.ReflOrd.compare_self] at hlt
    cases hlt
  · rintro key hkey _ hmem rfl
    exact hother key hmem (List.mem_eraseDups.1 (hfirst.subset hkey))

/-- The failures of a sweep's plan are in the order of its visits. -/
theorem Plan.inVisitOrder_failures {K : Type} [Stored K] (p : Plan K) (set : ObjectSet)
    {live : OrdMap ObjectKey K} {desired : ObjectKey → Action K} {unwanted : ObjectKey → K → Action K}
    (hp : p.entries = set.calls live desired unwanted) (s : MemoryStore) :
    InVisitOrder set.keys ((p.failures s).map (·.key)) := by
  have hsublist := p.keys_failures_sublist s
  rw [hp, ObjectSet.map_fst_calls, ObjectSet.visitOrder] at hsublist
  obtain ⟨first, rest, hkeys, hfirst, hrest⟩ := List.sublist_append_iff.1 hsublist
  refine ⟨first, rest, hkeys, hfirst, ?_, fun key hkey => ?_⟩
  · have hascending : live.keys.Pairwise fun a b => compare a b = .lt :=
      List.pairwise_map.2 live.sorted
    exact hascending.sublist (hrest.trans List.filter_sublist)
  · simpa using (List.mem_filter.1 (hrest.subset hkey)).2

/-! ## Errors by kind -/

theorem SetReport.errorOf?_append_inj {kind kind' : String} (hne : kind ≠ kind')
    {claims claims' pods pods' : List ObjectError}
    (h : (errorOf? kind claims).toList ++ (errorOf? kind' pods).toList
      = (errorOf? kind claims').toList ++ (errorOf? kind' pods').toList) :
    claims = claims' ∧ pods = pods' := by
  cases claims <;> cases claims' <;> cases pods <;> cases pods' <;> simp_all [errorOf?]

theorem SetReport.errorOf?_eq_some {kind : String} {failures : List ObjectError} {e : ReconcileError} :
    errorOf? kind failures = some e ↔ failures ≠ [] ∧ e = .objects kind failures := by
  cases failures <;> simp [errorOf?, eq_comm]

theorem SetReport.errorOf?_append_ne_nil {kind kind' : String} {claims pods : List ObjectError} :
    (errorOf? kind claims).toList ++ (errorOf? kind' pods).toList ≠ [] ↔ claims ≠ [] ∨ pods ≠ [] := by
  cases claims <;> cases pods <;> simp [errorOf?]

namespace Accounts

variable {kind : String} {failures : List ObjectError} {calls : List Call}

/-- The failures are of the kind, and they are failed calls that write. -/
theorem of_mem (h : Accounts kind failures calls) {e : ObjectError} (he : e ∈ failures) :
    e.kind = kind ∧ e.verb.isWrite = true := by
  rw [← h.failed, List.mem_filterMap] at he
  obtain ⟨c, hc, hfailed⟩ := he
  obtain ⟨hwrite, rfl⟩ := Call.failedWrite?_eq_some.1 hfailed
  exact ⟨(h.own _ hc hwrite).1, hwrite⟩

/-- There are failures just when a call that writes has failed. -/
theorem ne_nil_iff (h : Accounts kind failures calls) :
    failures ≠ [] ↔ ∃ c ∈ calls, c.verb.isWrite = true ∧ c.error.isSome = true := by
  constructor
  · intro hfailures
    obtain ⟨e, he⟩ := List.exists_mem_of_ne_nil failures hfailures
    rw [← h.failed] at he
    obtain ⟨c, hc, hfailed⟩ := List.mem_filterMap.1 he
    obtain ⟨hwrite, rfl⟩ := Call.failedWrite?_eq_some.1 hfailed
    exact ⟨_, hc, hwrite, rfl⟩
  · rintro ⟨c, hc, hwrite, herror⟩
    obtain ⟨key, hkey⟩ := Option.isSome_iff_exists.1 (h.own c hc hwrite).2
    obtain ⟨source, hsource⟩ := Option.isSome_iff_exists.1 herror
    have hfailed : c.failedWrite? = some { kind := c.kind, key, verb := c.verb, source } := by
      rw [Call.failedWrite?, if_pos hwrite, hkey, hsource]
    rw [← h.failed]
    exact List.ne_nil_of_mem (List.mem_filterMap.2 ⟨c, hc, hfailed⟩)

/-- The failures of two kinds of objects can be told apart by their kinds. -/
theorem filter_append {kind' : String} {failures' : List ObjectError} {calls' : List Call}
    (h : Accounts kind failures calls) (h' : Accounts kind' failures' calls') (hne : kind ≠ kind') :
    let failed := (calls ++ calls').filterMap (·.failedWrite?)
    failed.filter (·.kind = kind) = failures ∧ failed.filter (·.kind = kind') = failures' := by
  intro failed
  have hfailed : failed = failures ++ failures' := by
    rw [← h.failed, ← h'.failed]
    exact List.filterMap_append
  have hself : failures.filter (·.kind = kind) = failures :=
    List.filter_eq_self.2 fun e he => by simpa using (h.of_mem he).1
  have hself' : failures'.filter (·.kind = kind') = failures' :=
    List.filter_eq_self.2 fun e he => by simpa using (h'.of_mem he).1
  have hnone : failures.filter (·.kind = kind') = [] :=
    List.filter_eq_nil_iff.2 fun e he => by simpa [(h.of_mem he).1] using hne
  have hnone' : failures'.filter (·.kind = kind) = [] :=
    List.filter_eq_nil_iff.2 fun e he => by simpa [(h'.of_mem he).1] using Ne.symm hne
  rw [hfailed, List.filter_append, List.filter_append, hself, hnone', hnone, hself', List.append_nil,
    List.nil_append]
  exact ⟨rfl, rfl⟩

end Accounts

theorem PassResult.isSome_error? (r : PassResult) : r.error?.isSome = true ↔ r.errors ≠ [] := by
  unfold error?
  cases r.errors <;> simp

/-! ## Objects in memory -/

/-- Objects in memory can always be listed, so all that goes wrong with them are failed calls. -/
theorem errorsOf_inMemory {K : Type} [Stored K] [DecidableEq K]
    (strategy : Strategy (PassState MemoryStore) K) (set : ObjectSet) (s : PassState MemoryStore) :
    let outcome := (set.reconcile (passCalls K) strategy s).1
    errorsOf outcome = (SetReport.errorOf? (ManagedObject.kind K) (failuresOf outcome)).toList := rfl

/-- The errors of a pass over objects in memory are the failed calls in its journal. -/
theorem PassInput.run_journaled_inMemory (input : PassInput MemoryStore)
    (h : input.cluster = .inMemory) (w : MemoryStore) :
    ∃ claims pods claimCalls podCalls,
      input.journaled.run ⟨w, []⟩ = ((input.run w).1, ⟨(input.run w).2, claimCalls ++ podCalls⟩) ∧
      Accounts Claim.kind claims claimCalls ∧ Accounts "Pod" pods podCalls ∧
      (input.run w).1.result.errors = (SetReport.errorOf? Claim.kind claims).toList ++
        (SetReport.errorOf? "Pod" pods).toList := by
  obtain ⟨claimCalls, podCalls, hrun, hclaims, hpods, herrors⟩ := input.run_journaled w
  refine ⟨_, _, claimCalls, podCalls, hrun, hclaims, hpods, herrors.trans ?_⟩
  rw [h]
  exact congrArg₂ (· ++ ·) (errorsOf_inMemory ..) (errorsOf_inMemory ..)

/-! ## Last errors -/

namespace TabletStatus

variable (t : TabletStatus)

theorem lastError_noteFailure (failure? : Option ObjectError) :
    (t.noteFailure failure?).lastError = (failure?.map (·.message)).or t.lastError := by
  rw [noteFailure_eq]

theorem lastError_noteClaim (c? : Option Claim) : (t.noteClaim c?).lastError = t.lastError := by
  cases c? <;> rfl

theorem lastError_notePod (p? : Option Pod) (now : Timestamp) :
    (t.notePod p? now).lastError = t.lastError := by
  cases p? <;> rfl

end TabletStatus

namespace Shard

section Reported

variable (shard : Shard) (topology : Topology) (config : PassConfig) (now : Timestamp)
variable (w : MemoryStore)

theorem lastError_claimEntry (key : ObjectKey) (entry : TabletStatus) :
    (shard.claimEntry now w key entry).lastError =
      (((shard.claimFailures now w).find? (·.key = key)).map (·.message)).or entry.lastError := by
  unfold claimEntry claimFailures
  dsimp only
  split
  · next hkey =>
      rw [Plan.find?_failures (a := shard.claimAction key ((shard.liveClaims now w).get? key)) _ w
        (mem_claimPlan.2 (.inl ⟨hkey, rfl⟩)), TabletStatus.lastError_noteClaim,
        TabletStatus.lastError_noteFailure]
      split <;> rfl
  · next hkey =>
      cases hlive : (shard.liveClaims now w).get? key with
      | none =>
          rw [Plan.find?_failures_of_notMem _ w (notMem_claimPlan hkey hlive)]
          rfl
      | some c =>
          rw [Plan.find?_failures (a := claimTurnDown w key c) _ w
            (mem_claimPlan.2 (.inr ⟨hkey, c, hlive, rfl⟩)), TabletStatus.lastError_noteFailure]

theorem lastError_podEntry {key : ObjectKey} (hkey : key ∈ shard.keys)
    (desired : OrdMap String TabletStatus) (entry : TabletStatus) :
    (shard.podEntry now (shard.afterClaims now w) key entry).lastError =
      (((shard.podFailures topology config now w desired).find? (·.key = key)).map (·.message)).or
        entry.lastError := by
  unfold podEntry podFailures
  dsimp only
  rw [Plan.find?_failures (a := shard.podAction now (shard.afterClaims now w) key
      ((shard.livePods now (shard.afterClaims now w)).get? key)) _ _
    (mem_podPlan.2 (.inl ⟨hkey, rfl⟩)), TabletStatus.lastError_notePod,
    TabletStatus.lastError_noteFailure, podFailure?]
  split <;> rfl

/-- The last error that is reported of a desired tablet. -/
theorem lastError_reported {t : TabletSpec} (ht : t ∈ shard.tablets) :
    let desired := shard.reportedTablets topology config now w
    let pods := shard.podFailures topology config now w desired
    let claims := shard.claimFailures now w
    let key := t.key shard.ns
    ∃ entry, desired.get? t.identity.text = some entry ∧
      entry.lastError =
        ((pods.find? (·.key = key)).or (claims.find? (·.key = key))).map (·.message) := by
  intro desired pods claims key
  obtain ⟨entry, hentry⟩ := exists_reported topology config now w ht
  have hreported := reported_entry topology config now w (textAt_of_mem ht)
  rw [hentry] at hreported
  obtain ⟨claimed, hclaimed, rfl⟩ := Option.map_eq_some_iff.1 hreported.symm
  obtain ⟨blank, hblank, rfl⟩ := Option.map_eq_some_iff.1 hclaimed
  refine ⟨_, hentry, ?_⟩
  have hnone : blank.lastError = none := by
    rcases OrdMap.get?_insertMany_cases hblank with hmem | hempty
    · obtain ⟨t', -, heq⟩ := List.mem_map.1 hmem
      obtain rfl : _ = blank := congrArg Prod.snd heq
      rfl
    · cases hempty
  rw [shard.lastError_podEntry topology config now w (List.mem_map_of_mem ht) desired,
    shard.lastError_claimEntry, hnone, Option.or_none, Option.map_or]

/-! ## The errors of a pass -/

/-- The same pass, on a store that keeps a journal. -/
def journaledPass : StateM (Journaled MemoryStore) PassReport :=
  (shard.input topology config now).journaled.run

/-- The errors of a pass are the calls that fail in its journal, which are those that fail in its
plans. -/
theorem journaledPass_errors :
    let outcome := shard.reconcileAt topology config now w
    let claims := shard.claimFailures now w
    let pods := shard.podFailures topology config now w outcome.1.status.tablets
    ∃ claimCalls podCalls,
      shard.journaledPass topology config now ⟨w, []⟩
        = (outcome.1, ⟨outcome.2, claimCalls ++ podCalls⟩) ∧
      Accounts Claim.kind claims claimCalls ∧ Accounts "Pod" pods podCalls ∧
      outcome.1.result.errors = (SetReport.errorOf? Claim.kind claims).toList ++
        (SetReport.errorOf? "Pod" pods).toList := by
  have hplanned := shard.reported_sideNotes topology config now w
  have hjournaled := (shard.input topology config now).run_journaled_inMemory rfl w
  rw [show (shard.input topology config now).run w = shard.reconcileAt topology config now w from rfl,
    ← journaledPass] at hjournaled
  generalize shard.reconcileAt topology config now w = outcome at hplanned hjournaled ⊢
  obtain ⟨claims, pods, claimCalls, podCalls, hrun, hclaims, hpods, herrors⟩ := hjournaled
  -- the failures of the journal and of the plans come to the same errors, so they are the same
  obtain ⟨rfl, rfl⟩ := SetReport.errorOf?_append_inj (by decide) (herrors.symm.trans hplanned.2.2)
  exact ⟨claimCalls, podCalls, hrun, hclaims, hpods, herrors⟩

theorem claimFailures_inVisitOrder :
    InVisitOrder shard.claimKeys ((shard.claimFailures now w).map (·.key)) := by
  let live := shard.liveClaims now w
  have hentries : (shard.claimPlan now w).entries = (shard.objectSet now shard.claimKeys).calls live
      (fun key => shard.claimAction key (live.get? key)) (claimTurnDown w) := rfl
  exact Plan.inVisitOrder_failures _ _ hentries w

theorem podFailures_inVisitOrder (desired : OrdMap String TabletStatus) :
    InVisitOrder shard.keys ((shard.podFailures topology config now w desired).map (·.key)) := by
  let between := shard.afterClaims now w
  let live := shard.livePods now between
  have hentries : (shard.podPlan topology config now desired between).entries =
      (shard.objectSet now shard.keys).calls live
        (fun key => shard.podAction now between key (live.get? key))
        (fun _ => shard.podTurnDown topology config desired) := rfl
  exact Plan.inVisitOrder_failures _ _ hentries between

end Reported

/-- *No failure is lost.* A pass on a store that keeps a journal of all calls goes as it does without. It
reports an error just when a call that writes has failed. Then there is one error for each kind with
such calls, claims before pods, which lists exactly these calls, one for each key, in the order of the
desired keys and then of the others. The last error of a desired tablet is the failure of its pod's call, or
else of its claim's, or else there is none. Lookups that fail are reported nowhere. -/
theorem failures_reported (shard : Shard) (topology : Topology) (config : PassConfig)
    (now : Timestamp) (w : MemoryStore) :
    let outcome := shard.reconcileAt topology config now w
    let journaled := shard.journaledPass topology config now ⟨w, []⟩
    let failed := fun kind => journaled.2.failedWrites.filter (·.kind = kind)
    let errors := outcome.1.result.errors
    journaled.1 = outcome.1 ∧ journaled.2.world = outcome.2 ∧
    (outcome.1.result.error?.isSome = true ↔
      ∃ c ∈ journaled.2.calls, c.verb.isWrite = true ∧ c.error.isSome = true) ∧
    errors = [Claim.kind, "Pod"].filterMap (fun kind => SetReport.errorOf? kind (failed kind)) ∧
    InVisitOrder shard.claimKeys ((failed Claim.kind).map (·.key)) ∧
    InVisitOrder shard.keys ((failed "Pod").map (·.key)) ∧
    (∀ t ∈ shard.tablets, ∃ entry, outcome.1.status.tablets.get? t.identity.text = some entry ∧
      entry.lastError = (((failed "Pod").find? (·.key = t.key shard.ns)).or
        ((failed Claim.kind).find? (·.key = t.key shard.ns))).map (·.message)) ∧
    ∀ error ∈ errors, ∃ kind failures, error = .objects kind failures ∧
      (failures.map (·.key)).Nodup ∧ ∀ e ∈ failures, e.verb.isWrite = true := by
  obtain ⟨claimCalls, podCalls, hrun, hclaims, hpods, herrors⟩ :=
    shard.journaledPass_errors topology config now w
  have hlast : ∀ t ∈ shard.tablets, _ := fun t ht =>
    shard.lastError_reported topology config now w ht
  have hclaimOrder := shard.claimFailures_inVisitOrder now w
  have hpodOrder := shard.podFailures_inVisitOrder topology config now w
  dsimp only at hlast
  unfold reportedTablets at hlast
  rw [hrun]
  generalize shard.reconcileAt topology config now w = outcome at hclaims hpods herrors hlast ⊢
  replace hpodOrder := hpodOrder outcome.1.status.tablets
  generalize shard.claimFailures now w = claims at hclaims herrors hlast hclaimOrder
  generalize shard.podFailures topology config now w outcome.1.status.tablets = pods
    at hpods herrors hlast hpodOrder
  intro _ journaled failed errors
  obtain ⟨hfailedClaims, hfailedPods⟩ := hclaims.filter_append hpods (by decide)
  replace hfailedClaims : failed Claim.kind = claims := hfailedClaims
  replace hfailedPods : failed "Pod" = pods := hfailedPods
  have hkinds : [Claim.kind, "Pod"].filterMap (fun kind => SetReport.errorOf? kind (failed kind))
      = (SetReport.errorOf? Claim.kind claims).toList ++ (SetReport.errorOf? "Pod" pods).toList := by
    rw [List.filterMap_cons, List.filterMap_cons, hfailedClaims, hfailedPods]
    cases SetReport.errorOf? Claim.kind claims <;> cases SetReport.errorOf? "Pod" pods <;> rfl
  rw [hfailedClaims, hfailedPods, hkinds]
  refine ⟨rfl, rfl, ?_, herrors, hclaimOrder, hpodOrder, hlast, fun error herror => ?_⟩
  · rw [PassResult.isSome_error?, show outcome.1.result.errors = _ from herrors,
      SetReport.errorOf?_append_ne_nil, hclaims.ne_nil_iff, hpods.ne_nil_iff]
    simp only [journaled, List.mem_append, or_and_right, exists_or]
  · rw [show errors = _ from herrors, List.mem_append, Option.mem_toList, Option.mem_toList,
      SetReport.errorOf?_eq_some, SetReport.errorOf?_eq_some] at herror
    rcases herror with ⟨-, rfl⟩ | ⟨-, rfl⟩
    · exact ⟨_, _, rfl, hclaimOrder.nodup, fun e he => (hclaims.of_mem he).2⟩
    · exact ⟨_, _, rfl, hpodOrder.nodup, fun e he => (hpods.of_mem he).2⟩

end Shard

end TabletFleet
