import TabletFleet.Proofs.Pass.Outcome

set_option autoImplicit false

/-! # Turndown safety

A pass removes the pod of an unwanted tablet just when every gate is open: the pod is not on its way
out, it is drained, its labels tell its alias, the topology service answers in time and names another
primary or none, every desired tablet is reported as ready by this very pass, and the deletion is let
through. -/

namespace TabletFleet

/-! ## The gates -/

namespace Turndown

theorem isHealthy_iff {desired : OrdMap String TabletStatus} :
    isHealthy desired = true ↔
      ∀ name status, desired.get? name = some status → status.ready = .yes := by
  rw [isHealthy, List.all_eq_true]
  constructor
  · intro hall name status hentry
    have hready := hall status (List.mem_map_of_mem (OrdMap.mem_toList.2 hentry))
    simpa using hready
  · intro hall status hmem
    obtain ⟨e, he, rfl⟩ := List.mem_map.1 hmem
    have hready := hall e.1 e.2 (OrdMap.mem_toList.1 he)
    simp [hready]

end Turndown

namespace Shard

/-- The topology service knows the shard and answers in time, and its record names another primary than
the given tablet, or none. -/
def KnownNotPrimary (shard : Shard) (topology : Topology) (config : PassConfig)
    (tablet : TabletAlias) : Prop :=
  ∃ record, topology.lookup ⟨shard.keyspaceName, shard.spec.name⟩ config.lookupTimeout = .ok record ∧
    record.primary ≠ some tablet

section Gates

variable {shard : Shard} {topology : Topology} {config : PassConfig}

theorem primaryCheck_eq_notPrimary {p : Pod} :
    shard.primaryCheck topology config p = .notPrimary ↔
      ∃ tablet, TabletAlias.ofLabels? p.metadata.labels = some tablet ∧
        shard.KnownNotPrimary topology config tablet := by
  unfold primaryCheck KnownNotPrimary
  cases TabletAlias.ofLabels? p.metadata.labels with
  | none => simp
  | some tablet =>
      cases topology.lookup ⟨shard.keyspaceName, shard.spec.name⟩ config.lookupTimeout with
      | error e => simp [PrimaryCheck.ofRecord]
      | ok record =>
          by_cases hprimary : record.primary = some tablet <;>
            simp [PrimaryCheck.ofRecord, hprimary]

end Gates

/-! ## Removal -/

section Removal

variable {shard : Shard} {topology : Topology} {config : PassConfig} {now : Timestamp}
variable {w : MemoryStore} {key : ObjectKey} {p : Pod}

theorem notMem_keys_iff : key ∉ shard.keys ↔ ∀ t ∈ shard.tablets, t.key shard.ns ≠ key := by
  simp [keys]

/-- A pod in the shard's namespace with the shard's labels is found by a pass. -/
theorem livePods_of_labels (hstored : w.fetch? Pod key = some p) (hns : key.ns = shard.ns)
    (hlabels : Selector.accepts shard.labels p.metadata.labels = true) :
    (shard.livePods now w).get? key = some p :=
  get?_livePods.2 ⟨hstored, (isListed_iff (w.pods.keyed hstored)).2 ⟨hns, hlabels⟩⟩

/-- When every desired tablet is reported as ready, each of their pods was found by the pass, was
neither on its way out nor unready, and is still there. -/
theorem desired_of_isHealthy
    (hhealthy : Turndown.isHealthy (shard.reportedTablets topology config now w) = true)
    {t : TabletSpec} (ht : t ∈ shard.tablets) :
    ∃ q, (shard.livePods now w).get? (t.key shard.ns) = some q ∧
      q.metadata.isTerminating = false ∧ q.isReady = true ∧
      (shard.afterPass topology config now w).fetch? Pod (t.key shard.ns) ≠ none := by
  have hkey : t.key shard.ns ∈ shard.keys := List.mem_map_of_mem ht
  have hall := (isHealthy_reportedTablets shard topology config now w).1 hhealthy
  obtain ⟨q, hq, hserving, hdelete⟩ := hall _ hkey
  rw [livePods_afterClaims] at hq hdelete
  rw [Pod.isServing, Bool.and_eq_true, Bool.not_eq_true'] at hserving
  refine ⟨q, hq, hserving.2, hserving.1, ?_⟩
  obtain ⟨n, hafter⟩ := pod_desired now w topology config hkey
  rw [hafter, (get?_livePods.1 hq).1, ne_eq, Action.leaves_eq_none_iff]
  rintro ⟨hdeleted, hallowed⟩
  have hrejected := hdelete hdeleted
  rw [rejects_afterClaims, hallowed] at hrejected
  cases hrejected

/-- *Turndown safety.* A stored pod of the shard that is not at the key of a desired tablet is removed
by a pass if and only if it is not on its way out, it is drained, its labels tell its alias, the
topology service answers in time and does not name it as the primary, every desired tablet is reported
as ready by the same pass, and deleting it is not rejected. So a recorded primary stays, and a pass
that removes the pod has found a serving pod for every desired tablet and removed none of them. -/
theorem unwanted_pod_removed_iff (hstored : w.fetch? Pod key = some p) (hns : key.ns = shard.ns)
    (hlabels : Selector.accepts shard.labels p.metadata.labels = true)
    (hunwanted : ∀ t ∈ shard.tablets, t.key shard.ns ≠ key) :
    let outcome := shard.reconcileAt topology config now w
    (outcome.2.fetch? Pod key = none ↔
      p.metadata.deletionTimestamp = none ∧
      p.metadata.hasAnnotation AnnotationKey.drainFinished = true ∧
      (∃ tablet, TabletAlias.ofLabels? p.metadata.labels = some tablet ∧
        shard.KnownNotPrimary topology config tablet) ∧
      (∀ name status, outcome.1.status.tablets.get? name = some status → status.ready = .yes) ∧
      w.rejects .delete key.name = false) ∧
    (∀ tablet record, TabletAlias.ofLabels? p.metadata.labels = some tablet →
      topology.lookup ⟨shard.keyspaceName, shard.spec.name⟩ config.lookupTimeout = .ok record →
      record.primary = some tablet → outcome.2.fetch? Pod key ≠ none) ∧
    (outcome.2.fetch? Pod key = none → ∀ t ∈ shard.tablets, ∃ q,
      w.fetch? Pod (t.key shard.ns) = some q ∧
      Selector.accepts shard.labels q.metadata.labels = true ∧
      q.metadata.deletionTimestamp = none ∧ q.isReady = true ∧
      outcome.2.fetch? Pod (t.key shard.ns) ≠ none) := by
  have hlive : (shard.livePods now w).get? key = some p :=
    livePods_of_labels hstored hns hlabels
  have hgates : (shard.afterPass topology config now w).fetch? Pod key = none ↔ _ :=
    removed_iff_gates (notMem_keys_iff.2 hunwanted) hlive
  have hdesired : Turndown.isHealthy (shard.reportedTablets topology config now w) = true →
      ∀ t ∈ shard.tablets, ∃ q, (shard.livePods now w).get? (t.key shard.ns) = some q ∧
        q.metadata.isTerminating = false ∧ q.isReady = true ∧
        (shard.afterPass topology config now w).fetch? Pod (t.key shard.ns) ≠ none :=
    fun hhealthy t ht => desired_of_isHealthy hhealthy ht
  rw [primaryCheck_eq_notPrimary, ObjectMeta.isTerminating_eq_false, Turndown.isHealthy_iff]
    at hgates
  rw [Turndown.isHealthy_iff] at hdesired
  unfold afterPass reportedTablets at hgates hdesired
  -- from here on it does not matter how the outcome comes about
  generalize shard.reconcileAt topology config now w = outcome at hgates hdesired ⊢
  refine ⟨⟨?_, ?_⟩, ?_, ?_⟩
  · intro hremoved
    obtain ⟨⟨hterm, hdrained, hprimary, hhealthy⟩, hallowed⟩ := hgates.1 hremoved
    exact ⟨hterm, hdrained, hprimary, hhealthy, hallowed⟩
  · rintro ⟨hterm, hdrained, hprimary, hhealthy, hallowed⟩
    exact hgates.2 ⟨⟨hterm, hdrained, hprimary, hhealthy⟩, hallowed⟩
  · intro tablet record htablet hrecord hprimary hremoved
    obtain ⟨⟨-, -, ⟨tablet', htablet', record', hrecord', hother⟩, -⟩, -⟩ := hgates.1 hremoved
    obtain rfl : tablet = tablet' := Option.some.inj (htablet.symm.trans htablet')
    obtain rfl : record = record' := Except.ok.inj (hrecord.symm.trans hrecord')
    exact hother hprimary
  · intro hremoved t ht
    obtain ⟨⟨-, -, -, hhealthy⟩, -⟩ := hgates.1 hremoved
    obtain ⟨q, hq, hterm, hready, hremains⟩ := hdesired hhealthy t ht
    obtain ⟨hfetch, hlisted⟩ := get?_livePods.1 hq
    have hlabels := ((isListed_iff (w.pods.keyed hfetch)).1 hlisted).2
    exact ⟨q, hfetch, hlabels, ObjectMeta.isTerminating_eq_false.1 hterm, hready, hremains⟩

end Removal

/-- The pod of a drained replica. -/
def spare : Pod := samplePod sampleSecond (.ofList [(AnnotationKey.drainFinished, "")])

/-- Two replicas, of which the second is drained. -/
def drainedSpare : MemoryStore := .ofPods [samplePod sampleFirst .empty, spare]

theorem drained_spare_removed :
    ((sample 1).reconcileAt .sample {} .sample drainedSpare).2.fetch? Pod (sampleKey sampleSecond)
      = none := by
  have hspare : drainedSpare.fetch? Pod (sampleKey sampleSecond)
      = some (storedAs ⟨2, sampleUid 2⟩ true spare) := by
    decide +kernel
  have hlabels : Selector.accepts (sample 1).labels
      (storedAs ⟨2, sampleUid 2⟩ true spare).metadata.labels := by
    decide +kernel
  have hhealthy : Turndown.isHealthy ((sample 1).reconcileAt .sample {} .sample
      drainedSpare).1.status.tablets = true := by
    decide +kernel
  exact (unwanted_pod_removed_iff hspare rfl hlabels (by decide +kernel)).1.2
    ⟨rfl, by decide +kernel, ⟨sampleSecond, by decide +kernel, ⟨none⟩, by decide +kernel,
      by decide +kernel⟩, Turndown.isHealthy_iff.1 hhealthy, by decide +kernel⟩

end Shard

end TabletFleet
