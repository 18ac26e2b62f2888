import Mathlib.Data.List.DropRight
import Mathlib.Data.List.Induction
import TabletFleet.Proofs.Pass.Outcome
import TabletFleet.Proofs.Store.Outside

set_option autoImplicit false

/-! # Drain markers over time

The markers of a drain live as long as the pod that carries them: nothing takes them off again. So a
pod that was drained and then wanted again goes without another drain as soon as it is unwanted. A
removal follows a drain that ended after the pod was last wanted just when the pod was not drained at
that time (`removal_follows_drain_iff`). -/

namespace TabletFleet

open ManagedObject (metadata key?)

/-! ## Runs -/

/-- What can happen to the objects of a shard. -/
inductive Event where
  /-- A pass over the shard as it is by then. -/
  | pass (shard : Shard) (topology : Topology) (config : PassConfig) (now : Timestamp)
  /-- The cluster reports on a pod. -/
  | report (key : ObjectKey) (status : Option PodStatus)
  /-- The drain agent is done with a pod, if it was asked to drain it. -/
  | finishDrain (key : ObjectKey) (result : String)
  /-- Other calls are rejected from now on. -/
  | reject (rejections : List (Verb × String))
deriving Inhabited

namespace Event

/-- The event is a pass that wants a tablet at the key. -/
def wants (key : ObjectKey) : Event → Bool
  | .pass shard _ _ _ => decide (∃ t ∈ shard.tablets, t.key shard.ns = key)
  | _ => false

/-- The events up to the last one that wants a tablet at the key, and those after it. -/
def untilWanted (key : ObjectKey) (events : List Event) : List Event :=
  events.rdropWhile fun e => !e.wants key
def sinceWanted (key : ObjectKey) (events : List Event) : List Event :=
  events.rtakeWhile fun e => !e.wants key

/-- The pod of a drain that is over. -/
def finished (result : String) (p : Pod) : Pod :=
  { p with metadata := p.metadata.annotate AnnotationKey.drainFinished result }

/-- There is a pod at the key that was asked to drain. -/
def AsksForDrain (w : MemoryStore) (key : ObjectKey) : Prop :=
  ∃ p, w.fetch? Pod key = some p ∧ p.metadata.drainStarted = true

instance (w : MemoryStore) (key : ObjectKey) : Decidable (AsksForDrain w key) :=
  decidable_of_iff ((w.fetch? Pod key).any (·.metadata.drainStarted) = true) (by
    rw [AsksForDrain, Option.any_eq_true])

/-- The store after the event. -/
def step (w : MemoryStore) : Event → MemoryStore
  | .pass shard topology config now => (shard.reconcileAt topology config now w).2
  | .report key status => w.edit Pod key fun p => { p with status }
  | .finishDrain key result =>
    if AsksForDrain w key then w.edit Pod key (finished result) else w
  | .reject rejections => { w with rejections }

/-- The store after events in turn. -/
def runFrom (w : MemoryStore) (events : List Event) : MemoryStore := events.foldl step w

/-- The store after events in turn, when it was empty at first. -/
def run (newUid : Nat → String) (events : List Event) : MemoryStore :=
  runFrom (.empty newUid) events

/-- Among the events the drain agent finishes the drain of the pod at the key. -/
def FinishesDrain (key : ObjectKey) (w : MemoryStore) (events : List Event) : Prop :=
  ∃ before result after p, events = before ++ .finishDrain key result :: after ∧
    (runFrom w before).fetch? Pod key = some p ∧
    p.metadata.drainStarted = true ∧ p.metadata.drainFinished = false

/-- Since the pod at the key was last wanted, the drain agent has finished its drain. -/
def DrainedSinceWanted (newUid : Nat → String) (key : ObjectKey) (events : List Event) : Prop :=
  FinishesDrain key (run newUid (untilWanted key events)) (sinceWanted key events)

theorem runFrom_append (w : MemoryStore) (events events' : List Event) :
    runFrom w (events ++ events') = runFrom (runFrom w events) events' :=
  List.foldl_append

theorem runFrom_singleton (w : MemoryStore) (e : Event) : runFrom w [e] = step w e := rfl

theorem untilWanted_append_sinceWanted (key : ObjectKey) (events : List Event) :
    untilWanted key events ++ sinceWanted key events = events :=
  List.rdropWhile_append_rtakeWhile

theorem wants_of_mem_sinceWanted {key : ObjectKey} {events : List Event} {e : Event}
    (he : e ∈ sinceWanted key events) : e.wants key = false := by
  unfold sinceWanted at he
  have hnot := List.mem_rtakeWhile_imp he
  rwa [Bool.not_eq_true'] at hnot

theorem run_append (newUid : Nat → String) (events events' : List Event) :
    run newUid (events ++ events') = runFrom (run newUid events) events' :=
  runFrom_append (.empty newUid) events events'

/-! ## What one event does to the markers -/

section Markers

theorem drainFinished_finished (result : String) (p : Pod) :
    (finished result p).metadata.drainFinished = true := by
  rw [finished, ObjectMeta.drainFinished, ObjectMeta.hasAnnotation,
    ObjectMeta.annotation?_annotate, if_pos rfl]
  rfl

theorem drainFinished_storedAs (stamp : Stamp) (isNew : Bool) (p : Pod) :
    (storedAs stamp isNew p).metadata.drainFinished = p.metadata.drainFinished := rfl

/-- The event is the end of a drain of the pod at the key. -/
def EndsDrain (key : ObjectKey) (p : Pod) (e : Event) : Prop :=
  (∃ result, e = .finishDrain key result) ∧ p.metadata.drainStarted = true

variable {w : MemoryStore} {key : ObjectKey} {e : Event} {p' : Pod}

theorem drainFinished_pass {shard : Shard} {topology : Topology} {config : PassConfig}
    {now : Timestamp} (hunwanted : key ∉ shard.keys)
    (hp' : (shard.afterPass topology config now w).fetch? Pod key = some p') :
    ∃ p, w.fetch? Pod key = some p ∧ p'.metadata.drainFinished = p.metadata.drainFinished := by
  have hnone := Shard.byKey_eq_none hunwanted
  cases Shard.podOrigin hp' with
  | kept _ before => exact ⟨p', before, rfl⟩
  | created t n desired =>
      rw [hnone] at desired
      cases desired
  | updated t p f n desired =>
      rw [hnone] at desired
      cases desired
  | drained p n _ before =>
      exact ⟨p, before, p.metadata.drainFinished_startDrain Turndown.drainReason⟩

/-- A pod that is stored after an event that does not want it was stored before, and is drained just if
it was, or if its drain has just ended. -/
theorem drainFinished_step (hwants : e.wants key = false) (hp' : (step w e).fetch? Pod key = some p') :
    ∃ p, w.fetch? Pod key = some p ∧
      (p'.metadata.drainFinished = true ↔
        p.metadata.drainFinished = true ∨ e.EndsDrain key p) := by
  have hother : ∀ p, (∀ result, e ≠ .finishDrain key result) → ¬e.EndsDrain key p :=
    fun p hne ⟨⟨result, heq⟩, _⟩ => hne result heq
  cases e with
  | pass shard topology config now =>
      have hunwanted : key ∉ shard.keys := fun hmem =>
        of_decide_eq_false hwants (List.mem_map.1 hmem)
      obtain ⟨p, hp, hsame⟩ := drainFinished_pass hunwanted hp'
      exact ⟨p, hp, by simp [hsame, hother p]⟩
  | report k status =>
      have hsame : ∀ p : Pod, key? { p with status } = key? p := fun _ => rfl
      rw [step, MemoryStore.fetch?_edit hsame] at hp'
      by_cases hk : key = k
      · rw [if_pos hk] at hp'
        obtain ⟨p, hp, rfl⟩ := Option.map_eq_some_iff.1 hp'
        exact ⟨p, hk ▸ hp, by simp [drainFinished_storedAs, hother p]⟩
      · rw [if_neg hk] at hp'
        exact ⟨p', hp', by simp [hother p']⟩
  | finishDrain k result =>
      rw [step] at hp'
      by_cases hasks : AsksForDrain w k
      · have hsame : ∀ p, key? (finished result p) = key? p := fun _ => rfl
        rw [if_pos hasks, MemoryStore.fetch?_edit hsame] at hp'
        by_cases hk : key = k
        · subst hk
          rw [if_pos rfl] at hp'
          obtain ⟨p, hp, rfl⟩ := Option.map_eq_some_iff.1 hp'
          obtain ⟨q, hq, hstarted⟩ := hasks
          obtain rfl : p = q := Option.some.inj (hp.symm.trans hq)
          have hends : (Event.finishDrain key result).EndsDrain key p := ⟨⟨result, rfl⟩, hstarted⟩
          exact ⟨p, hp, by simp [drainFinished_storedAs, drainFinished_finished, hends]⟩
        · rw [if_neg hk] at hp'
          exact ⟨p', hp', by simp [EndsDrain, Ne.symm hk]⟩
      · rw [if_neg hasks] at hp'
        refine ⟨p', hp', ?_⟩
        -- the agent does nothing to a pod that was not asked to drain
        have hnot : ¬(Event.finishDrain k result).EndsDrain key p' := by
          rintro ⟨⟨_, heq⟩, hstarted⟩
          cases heq
          exact hasks ⟨p', hp', hstarted⟩
        simp [hnot]
  | reject rejections => exact ⟨p', hp', by simp [hother p']⟩

end Markers

/-! ## Over a run -/

section Runs

variable {key : ObjectKey} {w : MemoryStore} {events : List Event} {p : Pod}

theorem not_finishesDrain_nil : ¬FinishesDrain key w [] := by
  rintro ⟨before, result, after, -, hsplit, -⟩
  exact List.append_ne_nil_of_right_ne_nil _ (List.cons_ne_nil _ _) hsplit.symm

theorem finishesDrain_concat {e : Event} (hp : (runFrom w events).fetch? Pod key = some p) :
    FinishesDrain key w (events ++ [e]) ↔
      FinishesDrain key w events ∨ (e.EndsDrain key p ∧ p.metadata.drainFinished = false) := by
  constructor
  · rintro ⟨before, result, after, q, hsplit, hq, hstarted, hunfinished⟩
    -- the drain ends with the last event or before it
    rcases List.eq_nil_or_concat after with rfl | ⟨after', e', rfl⟩
    · obtain ⟨rfl, he⟩ := List.append_inj' hsplit rfl
      obtain rfl : p = q := Option.some.inj (hp.symm.trans hq)
      exact .inr ⟨⟨⟨result, List.singleton_inj.1 he⟩, hstarted⟩, hunfinished⟩
    · rw [List.concat_eq_append, ← List.cons_append, ← List.append_assoc] at hsplit
      obtain ⟨rfl, -⟩ := List.append_inj' hsplit rfl
      exact .inl ⟨before, result, after', q, rfl, hq, hstarted, hunfinished⟩
  · rintro (⟨before, result, after, q, rfl, hq⟩ | ⟨⟨⟨result, rfl⟩, hstarted⟩, hunfinished⟩)
    · exact ⟨before, result, after ++ [e], q, by simp, hq⟩
    · exact ⟨events, result, [], p, rfl, hp, hstarted, hunfinished⟩

/-- A pod that is stored after events none of which wants it was stored before them, and is drained just
if it was, or if its drain has ended among them. -/
theorem drainFinished_runFrom (hwants : ∀ e ∈ events, e.wants key = false)
    (hp : (runFrom w events).fetch? Pod key = some p) :
    ∃ q, w.fetch? Pod key = some q ∧
      (p.metadata.drainFinished = true ↔
        q.metadata.drainFinished = true ∨ FinishesDrain key w events) := by
  induction events using List.reverseRecOn generalizing p with
  | nil => exact ⟨p, hp, by simp [not_finishesDrain_nil]⟩
  | append_singleton events e ih =>
      rw [runFrom_append, runFrom_singleton] at hp
      have hlast : e.wants key = false := hwants e (by simp)
      obtain ⟨p₁, hp₁, hstep⟩ := drainFinished_step hlast hp
      obtain ⟨q, hq, hrun⟩ := ih (fun x hx => hwants x (List.mem_append_left _ hx)) hp₁
      refine ⟨q, hq, ?_⟩
      rw [finishesDrain_concat hp₁, ← Bool.not_eq_true, hstep, hrun]
      tauto

/-- A pod that is drained is not drained a second time, as long as it is not wanted. -/
theorem not_finishesDrain_of_drained (hwants : ∀ e ∈ events, e.wants key = false)
    (hp : w.fetch? Pod key = some p) (hdrained : p.metadata.drainFinished = true) :
    ¬FinishesDrain key w events := by
  rintro ⟨before, result, after, q, rfl, hq, -, hunfinished⟩
  obtain ⟨p', hp', hiff⟩ := drainFinished_runFrom
    (fun x hx => hwants x (List.mem_append_left _ hx)) hq
  obtain rfl : p = p' := Option.some.inj (hp.symm.trans hp')
  rw [hiff.2 (.inl hdrained)] at hunfinished
  cases hunfinished

/-- A stored pod was wanted once. -/
theorem exists_wanted {newUid : Nat → String} (hp : (run newUid events).fetch? Pod key = some p) :
    ∃ before last, untilWanted key events = before ++ [last] ∧ last.wants key = true := by
  have hsince : ∀ e ∈ sinceWanted key events, e.wants key = false :=
    fun e he => wants_of_mem_sinceWanted he
  rw [← untilWanted_append_sinceWanted key events, run_append] at hp
  obtain ⟨q, hq, -⟩ := drainFinished_runFrom hsince hp
  have hne : untilWanted key events ≠ [] := by
    intro hnil
    rw [hnil] at hq
    cases hq
  have hlast := List.rdropWhile_last_not _ _ hne
  rw [Bool.not_eq_true', Bool.not_eq_false] at hlast
  exact ⟨_, _, (List.dropLast_append_getLast hne).symm, hlast⟩

end Runs

/-! ## Removals -/

section Removals

variable {shard : Shard} {topology : Topology} {config : PassConfig} {now : Timestamp}
variable {w : MemoryStore} {key : ObjectKey} {p : Pod}

/-- An unwanted pod that a pass removes is drained. -/
theorem drained_of_removed (hunwanted : key ∉ shard.keys) (hstored : w.fetch? Pod key = some p)
    (hremoved : (shard.afterPass topology config now w).fetch? Pod key = none) :
    p.metadata.drainFinished = true := by
  cases hlive : (shard.livePods now w).get? key with
  | none =>
      rw [Shard.pod_other topology config hunwanted hlive, hstored] at hremoved
      cases hremoved
  | some q =>
      obtain rfl : q = p := Option.some.inj ((Shard.get?_livePods.1 hlive).1.symm.trans hstored)
      obtain ⟨⟨-, hdrained, -⟩, -⟩ := (Shard.removed_iff_gates hunwanted hlive).1 hremoved
      exact hdrained

/-- *Drain before removal, over whole runs.* An unwanted pod that a pass removes is drained, was wanted
once, and was stored after the last pass that wanted it. Its drain was finished since then if and only if
it was not drained by then: when it was, the old drain stands for a new one. -/
theorem removal_follows_drain_iff {newUid : Nat → String} {events : List Event}
    (hstored : (run newUid events).fetch? Pod key = some p)
    (hunwanted : (pass shard topology config now).wants key = false)
    (hremoved : (run newUid (events ++ [pass shard topology config now])).fetch? Pod key = none) :
    p.metadata.drainFinished = true ∧
    (∃ before last, untilWanted key events = before ++ [last] ∧ last.wants key = true) ∧
    ∃ q, (run newUid (untilWanted key events)).fetch? Pod key = some q ∧
      (DrainedSinceWanted newUid key events ↔ q.metadata.drainFinished = false) := by
  have hkeys : key ∉ shard.keys := fun hmem =>
    of_decide_eq_false hunwanted (List.mem_map.1 hmem)
  have hsince : ∀ e ∈ sinceWanted key events, e.wants key = false :=
    fun e he => wants_of_mem_sinceWanted he
  rw [run_append, runFrom_singleton] at hremoved
  have hdrained : p.metadata.drainFinished = true := drained_of_removed hkeys hstored hremoved
  refine ⟨hdrained, exists_wanted hstored, ?_⟩
  -- since the last pass that wanted the pod, only the end of its drain can have marked it
  rw [← untilWanted_append_sinceWanted key events, run_append] at hstored
  obtain ⟨q, hq, hiff⟩ := drainFinished_runFrom hsince hstored
  refine ⟨q, hq, ?_, ?_⟩
  · intro hsinceWanted
    by_contra hbefore
    rw [Bool.not_eq_false] at hbefore
    exact not_finishesDrain_of_drained hsince hq hbefore hsinceWanted
  · intro hbefore
    rcases hiff.1 hdrained with hthen | hfinishes
    · rw [hthen] at hbefore
      cases hbefore
    · exact hfinishes

end Removals

/-! ## A replica scaled down twice -/

section Sample

open Shard (sample sampleFirst sampleKey)

/-- A pass over the small shard. -/
def samplePass (replicas : Int32) : Event := pass (sample replicas) .sample {} .sample

/-- Its only replica is scaled down and drained. -/
def scaledDown : List Event :=
  [samplePass 1, samplePass 0, finishDrain (sampleKey sampleFirst) ""]

/-- Then it is wanted again, while its pod is still there. -/
def scaledBackUp : List Event := scaledDown ++ [samplePass 1]

/-- When the pass after the drain removes the replica, the drain was finished since it was wanted. -/
theorem drained_before_removed : DrainedSinceWanted sampleUid (sampleKey sampleFirst) scaledDown := by
  have hremoved : (run sampleUid scaledDown).fetch? Pod (sampleKey sampleFirst) ≠ none ∧
      (run sampleUid (scaledDown ++ [samplePass 0])).fetch? Pod (sampleKey sampleFirst) = none := by
    decide +kernel
  have hfresh : ((run sampleUid (untilWanted (sampleKey sampleFirst) scaledDown)).fetch? Pod
      (sampleKey sampleFirst)).all (fun q => !q.metadata.drainFinished) = true := by
    decide +kernel
  obtain ⟨p, hp⟩ := Option.ne_none_iff_exists'.1 hremoved.1
  obtain ⟨-, -, q, hq, hiff⟩ := removal_follows_drain_iff hp (by decide +kernel) hremoved.2
  rw [hq, Option.all_some, Bool.not_eq_true'] at hfresh
  exact hiff.2 hfresh

/-- Once it was wanted again, the next pass that does not want it removes it all the same: nothing has
drained it since. -/
theorem removed_without_new_drain :
    (run sampleUid scaledBackUp).fetch? Pod (sampleKey sampleFirst) ≠ none ∧
    (samplePass 0).wants (sampleKey sampleFirst) = false ∧
    (run sampleUid (scaledBackUp ++ [samplePass 0])).fetch? Pod (sampleKey sampleFirst) = none ∧
    ¬DrainedSinceWanted sampleUid (sampleKey sampleFirst) scaledBackUp := by
  have hremoved : (run sampleUid scaledBackUp).fetch? Pod (sampleKey sampleFirst) ≠ none ∧
      (run sampleUid (scaledBackUp ++ [samplePass 0])).fetch? Pod (sampleKey sampleFirst) = none := by
    decide +kernel
  have hsince : sinceWanted (sampleKey sampleFirst) scaledBackUp = [] := by
    refine List.rtakeWhile_concat_neg _ _ _ ?_
    decide +kernel
  refine ⟨hremoved.1, by decide +kernel, hremoved.2, ?_⟩
  rw [DrainedSinceWanted, hsince]
  exact not_finishesDrain_nil

end Sample

end Event

end TabletFleet
