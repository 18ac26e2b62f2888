import TabletFleet.Proofs.TurndownSafety

set_option autoImplicit false

/-! # The gates in front of a removal

An unwanted pod is decided about gate by gate. What the gates ask for is said here without the code that
passes them (`Gate.Opens`), and so is the verdict, which names the first gate that is closed (`Decided`).
The topology service may be any, with a world of its own that changes with every lookup; a count of the
lookups is kept beside that world. -/

namespace TabletFleet

/-! ## Counted lookups -/

/-- The same lookups, with a count of them beside the world. -/
def TopologyService.counted {σ : Type} (s : TopologyService σ) : TopologyService (σ × Nat) where
  lookup id timeout := fun w =>
    ((s.lookup id timeout w.1).1, (s.lookup id timeout w.1).2, w.2 + 1)

def PrimaryLookup.counted {σ : Type} (l : PrimaryLookup σ) : PrimaryLookup (σ × Nat) where
  topology := l.topology.counted
  shard := l.shard
  timeout := l.timeout

/-- What the topology service answers in a world. -/
def PrimaryLookup.answer {σ : Type} (l : PrimaryLookup σ) (w : σ) : Except TopologyError ShardRecord :=
  (l.topology.lookup l.shard l.timeout w).1

/-- A topology in memory answers with a record just when it has one, is in reach and takes no longer than
the given time. -/
theorem Topology.lookup_eq_ok_iff {t : Topology} {id : ShardId} {timeout : Duration}
    {record : ShardRecord} : t.lookup id timeout = .ok record ↔
      t.answersWithin timeout = true ∧ t.isUnavailable = false ∧ t.records.get? id = some record := by
  unfold lookup Topology.record
  cases t.answersWithin timeout with
  | false => simp
  | true =>
      cases t.isUnavailable with
      | true => simp
      | false => cases t.records.get? id <;> simp

/-! ## Which gates are open -/

namespace Turndown

/-- What a pod's removal is decided on. -/
structure Situation where
  pod : Pod
  /-- The alias of the pod's tablet, if it is known. -/
  tablet : Option TabletAlias
  /-- What the topology service answers about the shard. -/
  answer : Except TopologyError ShardRecord
  desired : OrdMap String TabletStatus

inductive Gate where
  | drained
  | primaryKnown
  | notPrimary
  | desiredReady

namespace Gate

/-- The gates are passed in this order. -/
def place : Gate → Nat
  | .drained => 0
  | .primaryKnown => 1
  | .notPrimary => 2
  | .desiredReady => 3

def reason : Gate → OrphanStatus
  | .drained => draining
  | .primaryKnown => primaryUnknown
  | .notPrimary => primary
  | .desiredReady => shardNotHealthy

def Opens (c : Situation) : Gate → Prop
  | .drained => c.pod.metadata.hasAnnotation AnnotationKey.drainFinished = true
  | .primaryKnown => ∃ tablet record, c.tablet = some tablet ∧ c.answer = .ok record
  | .notPrimary =>
    ∀ tablet record, c.tablet = some tablet → c.answer = .ok record → record.primary ≠ some tablet
  | .desiredReady => ∀ name status, c.desired.get? name = some status → status.ready = .yes

theorem eq_of_place_eq {g g' : Gate} (h : g.place = g'.place) : g = g' := by
  cases g <;> cases g' <;> first | rfl | cases h

end Gate

/-- The first gate that is closed refuses. -/
inductive Decided (c : Situation) : Verdict → Prop
  | allow (h : ∀ g, Gate.Opens c g) : Decided c .allow
  | refuse (g : Gate) (before : ∀ g' : Gate, g'.place < g.place → g'.Opens c) (closed : ¬g.Opens c) :
    Decided c (.refuse g.reason)

theorem Decided.unique {c : Situation} {v v' : Verdict} (h : Decided c v) (h' : Decided c v') :
    v = v' := by
  cases h with
  | allow hopen =>
      cases h' with
      | allow => rfl
      | refuse g _ closed => exact absurd (hopen g) closed
  | refuse g before closed =>
      cases h' with
      | allow hopen => exact absurd (hopen g) closed
      | refuse g' before' closed' =>
          rcases Nat.lt_trichotomy g.place g'.place with hlt | heq | hgt
          · exact absurd (before' g hlt) closed
          · rw [Gate.eq_of_place_eq heq]
          · exact absurd (before g' hgt) closed'

/-! ## What is decided -/

/-- Whether the tablet is the primary, by what the topology service answers. -/
def Situation.check (c : Situation) : PrimaryCheck :=
  match c.tablet with
  | some tablet => .ofRecord tablet c.answer
  | none => .unknown

section Gates

variable {c : Situation}

theorem ofRecord_eq_notPrimary_iff {tablet : TabletAlias} {answer : Except TopologyError ShardRecord} :
    PrimaryCheck.ofRecord tablet answer = .notPrimary ↔
      ∃ record, answer = .ok record ∧ record.primary ≠ some tablet := by
  cases answer with
  | error e => simp [PrimaryCheck.ofRecord]
  | ok record => by_cases h : record.primary = some tablet <;> simp [PrimaryCheck.ofRecord, h]

theorem opens_primaryKnown_iff : Gate.Opens c .primaryKnown ↔ c.check ≠ .unknown := by
  unfold Situation.check Gate.Opens
  cases c.tablet with
  | none => simp
  | some tablet =>
      cases c.answer with
      | error e => simp [PrimaryCheck.ofRecord]
      | ok record => by_cases h : record.primary = some tablet <;> simp [PrimaryCheck.ofRecord, h]

theorem opens_notPrimary_iff : Gate.Opens c .notPrimary ↔ c.check ≠ .primary := by
  unfold Situation.check Gate.Opens
  cases c.tablet with
  | none => simp
  | some tablet =>
      cases c.answer with
      | error e => simp [PrimaryCheck.ofRecord]
      | ok record => by_cases h : record.primary = some tablet <;> simp [PrimaryCheck.ofRecord, h]

/-- Once the tablet is drained, the verdict is that of the first closed gate after that. -/
theorem decided_afterDrain (hdrained : Gate.Opens c .drained) :
    Decided c (afterDrain c.check c.desired) := by
  cases hcheck : c.check with
  | unknown =>
      refine .refuse .primaryKnown (fun g hg => ?_) fun hknown => opens_primaryKnown_iff.1 hknown hcheck
      cases g with
      | drained => exact hdrained
      | primaryKnown | notPrimary | desiredReady => simp [Gate.place] at hg
  | primary =>
      refine .refuse .notPrimary (fun g hg => ?_) fun hnot => opens_notPrimary_iff.1 hnot hcheck
      cases g with
      | drained => exact hdrained
      | primaryKnown => exact opens_primaryKnown_iff.2 (by simp [hcheck])
      | notPrimary | desiredReady => simp [Gate.place] at hg
  | notPrimary =>
      have hbefore : ∀ g : Gate, g ≠ .desiredReady → g.Opens c := by
        intro g hg
        cases g with
        | drained => exact hdrained
        | primaryKnown => exact opens_primaryKnown_iff.2 (by simp [hcheck])
        | notPrimary => exact opens_notPrimary_iff.2 (by simp [hcheck])
        | desiredReady => exact absurd rfl hg
      by_cases hready : isHealthy c.desired = true
      · rw [Shard.afterDrain_eq_allow.2 ⟨rfl, hready⟩]
        refine .allow fun g => ?_
        by_cases hg : g = .desiredReady
        · rw [hg]
          exact isHealthy_iff.1 hready
        · exact hbefore g hg
      · have hrefused : afterDrain .notPrimary c.desired = .refuse shardNotHealthy := if_neg hready
        rw [hrefused]
        refine .refuse .desiredReady (fun g hg => hbefore g ?_) fun hall => hready (isHealthy_iff.2 hall)
        rintro rfl
        exact absurd hg (Nat.lt_irrefl _)

end Gates

section Decisions

variable {σ : Type} {l : PrimaryLookup σ} {tablet : Option TabletAlias}
variable {desired : OrdMap String TabletStatus} {p : Pod} {w : σ}

theorem pod_of_draining (h : ¬p.metadata.drainFinished = true) :
    pod l tablet desired p w
      = (({ p with metadata := p.metadata.startDrain drainReason }, .refuse draining), w) := by
  unfold pod
  rw [if_neg h]
  rfl

theorem pod_of_drained (h : p.metadata.drainFinished = true) :
    pod l tablet desired p w
      = ((p, afterDrain (Situation.check ⟨p, tablet, l.answer w, desired⟩) desired),
          if tablet.isSome then (l.topology.lookup l.shard l.timeout w).2 else w) := by
  unfold pod
  rw [if_pos h]
  cases tablet <;> rfl

/-- The verdict is that of the first closed gate. -/
theorem decided_pod : Decided ⟨p, tablet, l.answer w, desired⟩ (pod l tablet desired p w).1.2 := by
  by_cases hdrained : p.metadata.drainFinished = true
  · rw [pod_of_drained hdrained]
    exact decided_afterDrain hdrained
  · rw [pod_of_draining hdrained]
    exact .refuse .drained (fun g hg => absurd hg (Nat.not_lt_zero _)) hdrained

/-- The verdict depends on the topology service by what it answers alone. -/
theorem pod_congr {τ : Type} {l' : PrimaryLookup τ} {w' : τ} (h : l'.answer w' = l.answer w) :
    (pod l' tablet desired p w').1 = (pod l tablet desired p w).1 := by
  by_cases hdrained : p.metadata.drainFinished = true
  · rw [pod_of_drained hdrained, pod_of_drained hdrained, h]
  · rw [pod_of_draining hdrained, pod_of_draining hdrained]

theorem world_pod : (pod l tablet desired p w).2
    = if p.metadata.drainFinished = true ∧ tablet.isSome = true then
        (l.topology.lookup l.shard l.timeout w).2 else w := by
  by_cases hdrained : p.metadata.drainFinished = true
  · rw [pod_of_drained hdrained]
    simp only [hdrained, true_and]
  · rw [pod_of_draining hdrained, if_neg fun h => hdrained h.1]

theorem prepared_pod : (pod l tablet desired p w).1.1
    = if p.metadata.drainFinished = true ∨ p.metadata.drainStarted = true then p
      else { p with metadata := p.metadata.annotate AnnotationKey.drainStarted drainReason } := by
  by_cases hdrained : p.metadata.drainFinished = true
  · have hkept : p.metadata.drainFinished = true ∨ p.metadata.drainStarted = true := .inl hdrained
    rw [pod_of_drained hdrained, if_pos hkept]
  · rw [pod_of_draining hdrained, ObjectMeta.startDrain]
    by_cases hstarted : p.metadata.drainStarted = true
    · rw [if_pos hstarted, if_pos (.inr hstarted)]
    · rw [if_neg hstarted, if_neg (not_or.2 ⟨hdrained, hstarted⟩)]

/-- A pod that has been prepared for going is not prepared any further. -/
theorem pod_prepared (w' : σ) : (pod l tablet desired (pod l tablet desired p w).1.1 w').1
    = (pod l tablet desired p w').1 := by
  by_cases hdrained : p.metadata.drainFinished = true
  · rw [pod_of_drained hdrained]
  · have hdraining : ¬(p.metadata.startDrain drainReason).drainFinished = true := by
      rw [ObjectMeta.drainFinished_startDrain]
      exact hdrained
    rw [pod_of_draining hdrained, pod_of_draining hdraining, pod_of_draining hdrained,
      ObjectMeta.startDrain_startDrain]

/-- Counting the lookups changes nothing else. -/
theorem pod_counted (n : Nat) : pod l.counted tablet desired p (w, n) =
    ((pod l tablet desired p w).1, (pod l tablet desired p w).2,
      if p.metadata.drainFinished = true ∧ tablet.isSome then n + 1 else n) := by
  by_cases hdrained : p.metadata.drainFinished = true
  · rw [pod_of_drained hdrained, pod_of_drained hdrained]
    cases tablet with
    | none => simp [Situation.check]
    | some tablet =>
        simp only [hdrained, Option.isSome_some, and_self, if_true]
        rfl
  · rw [pod_of_draining hdrained, pod_of_draining hdrained]
    simp [hdrained]

end Decisions

/-- *The turndown gates.* The pod of an unwanted tablet is refused with the reason of the first gate that is
closed, and allowed to go if none is; the topology is looked up once if the pod is drained and its alias
known, and not otherwise; and the pod stays as it is, unless a drain is neither over nor requested: then the
drain is requested, and nothing else changes. Deciding about the pod again, with the same answer of the
topology service, gives the same verdict and pod. Only a record that is there and comes in time tells that a
tablet is not the primary. -/
theorem pod_passes_gates {σ : Type} (l : PrimaryLookup σ) (tablet : Option TabletAlias)
    (desired : OrdMap String TabletStatus) (p : Pod) (w : σ) (n : Nat) :
    let outcome := pod l tablet desired p w
    let p' := outcome.1.1
    let m := p.metadata
    (∀ v, outcome.1.2 = v ↔ Decided ⟨p, tablet, l.answer w, desired⟩ v) ∧
      pod l.counted tablet desired p (w, n) = (outcome.1, outcome.2,
        if m.drainFinished = true ∧ tablet.isSome = true then n + 1 else n) ∧
      outcome.2 = (if m.drainFinished = true ∧ tablet.isSome = true then
        (l.topology.lookup l.shard l.timeout w).2 else w) ∧
      p' = (if m.drainFinished = true ∨ m.drainStarted = true then p else
        { p with metadata := { m with
          annotations := some ((m.annotations.getD .empty).insert AnnotationKey.drainStarted
            drainReason) } }) ∧
      (∀ w', l.answer w' = l.answer w → (pod l tablet desired p' w').1 = (p', outcome.1.2)) ∧
      (∀ a, (l.check a w).1 = .notPrimary ↔
        ∃ record, l.answer w = .ok record ∧ record.primary ≠ some a) ∧
      ∀ topology : Topology, l.topology = topology.service → ∀ record, l.answer w = .ok record ↔
        topology.answersWithin l.timeout = true ∧ topology.isUnavailable = false ∧
          topology.records.get? l.shard = some record := by
  intro outcome p' m
  refine ⟨fun v => ⟨fun h => h ▸ decided_pod, decided_pod.unique⟩, pod_counted n, ?_, ?_, fun w' h => ?_,
    fun a => ofRecord_eq_notPrimary_iff, fun topology h record => ?_⟩
  · exact world_pod
  · exact prepared_pod
  · rw [pod_prepared, pod_congr h]
  · rw [PrimaryLookup.answer, h]
    exact topology.lookup_eq_ok_iff

/-- Where the primary of the small shard is looked up. -/
def sampleLookup : PrimaryLookup Unit := ⟨Topology.sample.service, ⟨"ks", "-"⟩, .zero⟩

/-- The drained replica is not the primary, so its pod may go, and may go still when it is asked again. -/
theorem sample_spare_passes_gates :
    let outcome := pod sampleLookup (some Shard.sampleSecond) .empty Shard.spare ()
    sampleLookup.topology = Topology.sample.service ∧ sampleLookup.answer () = .ok ⟨none⟩ ∧
      outcome.1.2 = .allow ∧
      (pod sampleLookup (some Shard.sampleSecond) .empty outcome.1.1 ()).1 = (outcome.1.1, .allow) := by
  intro outcome
  obtain ⟨hverdict, -, -, -, hagain, -, hanswer⟩ :=
    pod_passes_gates sampleLookup (some Shard.sampleSecond) .empty Shard.spare () 0
  have hrecord : sampleLookup.answer () = .ok ⟨none⟩ :=
    (hanswer Topology.sample rfl ⟨none⟩).2 ⟨by decide, rfl, by decide⟩
  have hallow : outcome.1.2 = .allow := by
    refine (hverdict .allow).2 (.allow fun g => ?_)
    cases g with
    | drained =>
        have hdrained : Shard.spare.metadata.hasAnnotation AnnotationKey.drainFinished = true := by
          decide
        exact hdrained
    | primaryKnown => exact ⟨_, _, rfl, hrecord⟩
    | notPrimary =>
        intro tablet record _ hanswered
        obtain rfl : ShardRecord.mk none = record := Except.ok.inj (hrecord.symm.trans hanswered)
        exact (Option.some_ne_none tablet).symm
    | desiredReady =>
        intro name status hentry
        rw [OrdMap.get?_empty] at hentry
        cases hentry
  exact ⟨rfl, hrecord, hallow, hallow ▸ hagain () rfl⟩

end Turndown

end TabletFleet
