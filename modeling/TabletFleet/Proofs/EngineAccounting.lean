import TabletFleet.Proofs.Pass.Outcome
import TabletFleet.Proofs.Reconcile.Recorded

set_option autoImplicit false

/-! # The accounts of the reconciler

What a reconciliation does adds up (`ObjectSet.reconcile_accounts`): every key has its turn once, whatever
fails at others, no key is written to twice, the strategy is told of exactly what it has to report, and
the report says of every key what was done about it. What is deleted is what the strategy lets go and what
its changes need to be made anew. This holds of every store, whose calls may answer and do what they like,
and of every strategy that minds the keys of the objects it makes and changes. -/

namespace TabletFleet

open ManagedObject (isTerminating metadata)
open StateRun

/-! ## A log, key by key -/

theorem Note.not_concerns {key key' : ObjectKey} {n : Note} (h : n.concerns key = true)
    (hne : key ≠ key') : ¬n.concerns key' = true := by
  rw [concerns_iff] at h ⊢
  rw [h, Option.some.injEq]
  exact hne

namespace Episodes

variable {kind : String} {standing : ObjectKey → Option Standing} {keys : List ObjectKey}
variable {vs : List Visit} {log : List Note} {key : ObjectKey}

theorem map_key (h : Episodes kind standing keys vs log) : vs.map (·.key) = keys := by
  induction h with
  | nil => rfl
  | cons _ first _ ih => rw [List.map_cons, first.key_eq, ih]

theorem filter_log_of_notMem (h : Episodes kind standing keys vs log) (hkey : key ∉ keys) :
    log.filter (·.concerns key) = [] := by
  induction h with
  | nil => rfl
  | cons _ first _ ih =>
      rw [List.mem_cons, not_or] at hkey
      rw [List.filter_append, ih hkey.2, List.append_nil, List.filter_eq_nil_iff]
      exact fun n hn => Note.not_concerns (first.concerns n hn) (Ne.symm hkey.1)

/-- If no key has two turns, what the log tells of a key is what was noted when it had its turn. -/
theorem at_visit (h : Episodes kind standing keys vs log) (hnodup : keys.Nodup) {v : Visit}
    (hv : v ∈ vs) :
    ∃ s, standing v.key = some s ∧ Episode kind v.key s v (log.filter (·.concerns v.key)) := by
  induction h with
  | nil => cases hv
  | @cons key s first notes keys vs rest hkey hfirst others ih =>
      rw [List.nodup_cons] at hnodup
      rw [List.filter_append]
      rcases List.mem_cons.1 hv with rfl | hv
      · obtain rfl := hfirst.key_eq
        rw [others.filter_log_of_notMem hnodup.1, List.append_nil,
          List.filter_eq_self.2 hfirst.concerns]
        exact ⟨s, hkey, hfirst⟩
      · have hne : key ≠ v.key := fun heq =>
          hnodup.1 (heq ▸ others.map_key ▸ List.mem_map_of_mem hv)
        have hnone : notes.filter (·.concerns v.key) = [] :=
          List.filter_eq_nil_iff.2 fun n hn => Note.not_concerns (hfirst.concerns n hn) hne
        rw [hnone, List.nil_append]
        exact ih hnodup.2 hv

theorem at_key (h : Episodes kind standing keys vs log) (hnodup : keys.Nodup) (hkey : key ∈ keys) :
    ∃ s v, standing key = some s ∧ v ∈ vs ∧ Episode kind key s v (log.filter (·.concerns key)) := by
  rw [← h.map_key] at hkey
  obtain ⟨v, hv, rfl⟩ := List.mem_map.1 hkey
  obtain ⟨s, hs, hepisode⟩ := h.at_visit hnodup hv
  exact ⟨s, v, hs, hv, hepisode⟩

/-- What was done about one key was done in one go. -/
theorem grouped (h : Episodes kind standing keys vs log) (hnodup : keys.Nodup) :
    log = keys.flatMap fun key => log.filter (·.concerns key) := by
  induction h with
  | nil => rfl
  | @cons key s first notes keys vs rest hkey hfirst others ih =>
      rw [List.nodup_cons] at hnodup
      have hhead : (notes ++ rest).filter (·.concerns key) = notes := by
        rw [List.filter_append, others.filter_log_of_notMem hnodup.1, List.append_nil,
          List.filter_eq_self.2 hfirst.concerns]
      have htail : ∀ k ∈ keys, (notes ++ rest).filter (·.concerns k)
          = rest.filter (·.concerns k) := by
        intro k hk
        have hne : key ≠ k := fun heq => hnodup.1 (heq ▸ hk)
        rw [List.filter_append, List.filter_eq_nil_iff.2, List.nil_append]
        exact fun n hn => Note.not_concerns (hfirst.concerns n hn) hne
      rw [List.flatMap_cons, hhead, List.flatMap_congr htail, ← ih hnodup.2]

/-- Every failed call is reported, and the strategy is told of it. -/
theorem failures (h : Episodes kind standing keys vs log) :
    (vs.filterMap (·.failure)).map (fun e => (e.verb, e.key)) = log.filterMap (·.failed?) ∧
      (vs.filterMap (·.failure)).map (·.key) = log.filterMap (·.toldOf?) := by
  induction h with
  | nil => exact ⟨rfl, rfl⟩
  | cons _ first _ ih =>
      rw [List.filterMap_append, List.filterMap_append, ← ih.1, ← ih.2]
      cases first <;> simp [Note.failed?, Note.toldOf?]

end Episodes

/-! ## Reports -/

namespace SetReport

variable {r : SetReport} {key : ObjectKey}

theorem mem_keysOf {o : Outcome} : key ∈ r.keysOf o ↔ ∃ v ∈ r.visits, v.key = key ∧ v.outcome = o := by
  simp only [keysOf, List.mem_filterMap, Option.ite_none_right_eq_some, Option.some.injEq]
  exact exists_congr fun v => and_congr_right fun _ => and_comm

theorem isSome_orphaned : (r.orphaned.get? key).isSome = true ↔
    ∃ v ∈ r.visits, v.key = key ∧ ∃ why, v.outcome = .orphaned why := by
  rw [orphaned, OrdMap.isSome_get?_ofList]
  simp only [List.mem_map, List.mem_filterMap]
  constructor
  · rintro ⟨e, ⟨v, hv, he⟩, rfl⟩
    split at he
    · next why hwhy =>
        obtain rfl := Option.some.inj he
        exact ⟨v, hv, rfl, why, hwhy⟩
    · cases he
  · rintro ⟨v, hv, rfl, why, hwhy⟩
    exact ⟨(v.key, why), ⟨v, hv, by rw [hwhy]⟩, rfl⟩

/-- If no key is visited twice, the report has every reason for which an object was kept. -/
theorem orphaned_eq_some (hnodup : (r.visits.map (·.key)).Nodup) {why : OrphanStatus} :
    r.orphaned.get? key = some why ↔ ∃ v ∈ r.visits, v.key = key ∧ v.outcome = .orphaned why := by
  rw [orphaned]
  refine (OrdMap.get?_ofList_of_nodup ?_).trans ?_
  · rw [List.Nodup, List.pairwise_map] at hnodup ⊢
    refine hnodup.filterMap _ fun v v' hne e he e' he' => ?_
    split at he
    · split at he'
      · rw [← Option.some.inj he, ← Option.some.inj he']
        exact hne
      · cases he'
    · cases he
  · rw [List.mem_filterMap]
    refine exists_congr fun v => and_congr_right fun _ => ?_
    split
    · next why' hwhy => simp [hwhy]
    · next hother => simpa using fun _ => hother why

theorem nodup_keysOf (hnodup : (r.visits.map (·.key)).Nodup) (o : Outcome) : (r.keysOf o).Nodup := by
  rw [List.Nodup, List.pairwise_map] at hnodup
  refine hnodup.filterMap _ fun v v' hne key hkey key' hkey' => ?_
  rw [Option.ite_none_right_eq_some, Option.some.injEq] at hkey hkey'
  rw [← hkey.2, ← hkey'.2]
  exact hne

/-- If no key is visited twice, every key has one outcome. -/
theorem outcome_unique (hnodup : (r.visits.map (·.key)).Nodup) {v v' : Visit} (hv : v ∈ r.visits)
    (hv' : v' ∈ r.visits) (hkey : v.key = v'.key) : v.outcome = v'.outcome :=
  congrArg Visit.outcome (List.inj_on_of_nodup_map hnodup hv hv' hkey)

theorem disjoint_keysOf (hnodup : (r.visits.map (·.key)).Nodup) {o o' : Outcome} (hne : o ≠ o') :
    (r.keysOf o).Disjoint (r.keysOf o') := by
  intro key h h'
  obtain ⟨v, hv, hkey, rfl⟩ := mem_keysOf.1 h
  obtain ⟨v', hv', hkey', rfl⟩ := mem_keysOf.1 h'
  exact hne (outcome_unique hnodup hv hv' (hkey.trans hkey'.symm))

theorem disjoint_orphaned (hnodup : (r.visits.map (·.key)).Nodup) {o : Outcome}
    (hne : ∀ why, o ≠ .orphaned why) : (r.keysOf o).Disjoint r.orphaned.keys := by
  intro key h h'
  obtain ⟨v, hv, hkey, rfl⟩ := mem_keysOf.1 h
  obtain ⟨v', hv', hkey', why, hwhy⟩ := isSome_orphaned.1 (OrdMap.mem_keys.1 h')
  exact hne why ((outcome_unique hnodup hv hv' (hkey.trans hkey'.symm)).trans hwhy)

/-- All together, the keys of a report repeat none. -/
theorem nodup_keys (hnodup : (r.visits.map (·.key)).Nodup) :
    [r.created, r.updated, r.recreated, r.deleted, r.orphaned.keys].flatten.Nodup := by
  rw [List.nodup_flatten]
  constructor
  · simp only [List.forall_mem_cons, List.not_mem_nil, false_implies, implies_true, and_true]
    refine ⟨?_, ?_, ?_, ?_, OrdMap.nodup_keys _⟩ <;> exact nodup_keysOf hnodup _
  · simp only [List.pairwise_cons, List.forall_mem_cons, List.not_mem_nil, false_implies,
      implies_true, and_true, List.Pairwise.nil]
    refine ⟨⟨?_, ?_, ?_, ?_⟩, ⟨?_, ?_, ?_⟩, ⟨?_, ?_⟩, ?_⟩ <;>
      first
      | exact disjoint_keysOf hnodup (by simp)
      | exact disjoint_orphaned hnodup (by simp)

end SetReport

namespace Episodes

variable {kind : String} {standing : ObjectKey → Option Standing} {keys : List ObjectKey}
variable {vs : List Visit} {log : List Note} {key : ObjectKey}

/-- What the log has about a key was noted when the key had its turn. -/
theorem mem_keys (h : Episodes kind standing keys vs log) {n : Note} (hn : n ∈ log)
    (hconcerns : n.concerns key = true) : key ∈ keys := by
  refine Decidable.byContradiction fun hnot => ?_
  have hat : n ∈ log.filter (·.concerns key) := List.mem_filter.2 ⟨hn, hconcerns⟩
  rw [h.filter_log_of_notMem hnot] at hat
  cases hat

/-- If an outcome shows in the log, the report has it at a key just when the log has it. -/
theorem mem_keysOf_iff (h : Episodes kind standing keys vs log) (hnodup : keys.Nodup) {o : Outcome}
    {p : Standing → Prop} {n : Note} (hconcerns : n.concerns key = true)
    (hshows : ∀ s v notes, Episode kind key s v notes → (v.outcome = o ↔ p s ∧ n ∈ notes)) :
    key ∈ SetReport.keysOf { kind, visits := vs } o ↔
      (∃ s, standing key = some s ∧ p s) ∧ n ∈ log := by
  rw [SetReport.mem_keysOf]
  constructor
  · rintro ⟨v, hv, rfl, ho⟩
    obtain ⟨s, hs, hepisode⟩ := h.at_visit hnodup hv
    obtain ⟨hp, hn⟩ := (hshows s v _ hepisode).1 ho
    exact ⟨⟨s, hs, hp⟩, (List.mem_filter.1 hn).1⟩
  · rintro ⟨⟨s, hs, hp⟩, hn⟩
    have hat : n ∈ log.filter (·.concerns key) := List.mem_filter.2 ⟨hn, hconcerns⟩
    obtain ⟨s', v, hs', hv, hepisode⟩ := h.at_key hnodup (h.mem_keys hn hconcerns)
    obtain rfl : s = s' := Option.some.inj (hs.symm.trans hs')
    exact ⟨v, hv, hepisode.key_eq, (hshows s v _ hepisode).2 ⟨hp, hat⟩⟩

end Episodes

/-! ## The accounts -/

/-- The question that begins a visit; an object that is on its way out already raises none. -/
def Standing.firstQuestion? : Standing → Option Question
  | .absent => some .newObject
  | .live _ => some .updateInPlace
  | .unwanted => some .prepareForTurndown
  | .leaving => none

variable {σ K : Type} [ManagedObject K]

/-- The report and the log of a reconciliation add up. -/
structure Accounted (set : ObjectSet) (live : OrdMap ObjectKey K) (report : SetReport)
    (log : List Note) : Prop where
  /-- No key has two turns. -/
  once : (set.visitOrder live).Nodup
  visited : report.visits.map (·.key) = set.visitOrder live
  /-- What is done about a key is done when it has its turn, and nothing else is done. -/
  turns : log = (set.visitOrder live).flatMap fun key => log.filter (·.concerns key)
  begun : ∀ key, log.filter (fun n => n.isFirst && n.concerns key)
    = (((set.standing live key).bind (·.firstQuestion?)).map (Note.asked · key)).toList
  writes : ∀ key, (log.filter fun n => n.isWrite && n.concerns key).length ≤ 1
  statusLive : ∀ key ∈ set.keys, (live.get? key).isSome = true → log.count (.asked .status key) = 1
  statusAbsent : ∀ key ∈ set.keys, live.get? key = none →
    log.count (.asked .status key) = if .wrote .create key true ∈ log then 1 else 0
  statusOther : ∀ key, key ∉ set.keys → log.count (.asked .status key) = 0
  apart : [report.created, report.updated, report.recreated, report.deleted,
    report.orphaned.keys].flatten.Nodup
  created : ∀ key, key ∈ report.created ↔
    (key ∈ set.keys ∧ live.get? key = none) ∧ .wrote .create key true ∈ log
  updated : ∀ key, key ∈ report.updated ↔
    (key ∈ set.keys ∧ (live.get? key).isSome = true) ∧ .wrote .update key true ∈ log
  recreated : ∀ key, key ∈ report.recreated ↔
    (key ∈ set.keys ∧ (live.get? key).isSome = true) ∧ .wrote .delete key true ∈ log
  deleted : ∀ key, key ∈ report.deleted ↔
    (key ∉ set.keys ∧ ∃ object, live.get? key = some object ∧ isTerminating object = false) ∧
      .wrote .delete key true ∈ log
  turnedDown : ∀ key object, key ∉ set.keys → live.get? key = some object →
    isTerminating object = false →
      key ∈ report.deleted ∨ (report.orphaned.get? key).isSome = true ∨
        ∃ e ∈ report.errors, e.key = key ∧ e.verb = .delete
  /-- Of every unwanted object the strategy says once whether it may go. -/
  judged : ∀ key object, key ∉ set.keys → live.get? key = some object → isTerminating object = false →
    ∃ verdict, log.filter (fun n => n.isAnswer && n.concerns key) = [.answered (.verdict verdict) key]
  /-- An unwanted object is to be deleted just if it may go. -/
  allowed : ∀ key, key ∉ set.keys →
    ((∃ done, .wrote .delete key done ∈ log) ↔ .answered (.verdict .allow) key ∈ log)
  /-- The reasons for which objects are kept are those that the strategy gives. -/
  refused : ∀ key why, report.orphaned.get? key = some why ↔
    .answered (.verdict (.refuse why)) key ∈ log
  /-- Of every live object that is desired it is found once which changes need it to be made anew. -/
  compared : ∀ key ∈ set.keys, (live.get? key).isSome = true → ∃ changes,
    log.filter (fun n => n.isAnswer && n.concerns key) = [.answered (.pending changes) key]
  /-- A desired object is to be deleted just if it is live, there are such changes, and they are carried
  out at once. -/
  madeAnew : ∀ key ∈ set.keys, ((∃ done, .wrote .delete key done ∈ log) ↔
    ∃ object changes, live.get? key = some object ∧ .answered (.pending changes) key ∈ log ∧
      changes ≠ [] ∧ (set.releaseImmediately = true ∨ (metadata object).released = true))
  /-- Every failed call is reported, in the order in which they were made. -/
  failures : report.errors.map (fun e => (e.verb, e.key)) = log.filterMap (·.failed?)
  /-- The strategy is told of every one of them. -/
  told : report.errors.map (·.key) = log.filterMap (·.toldOf?)

namespace ObjectSet

section Standings

variable {set : ObjectSet} {live : OrdMap ObjectKey K} {key : ObjectKey}

theorem standing_of_mem (hkey : key ∈ set.keys) :
    set.standing live key
      = some ((live.get? key).elim .absent fun current => .live (set.releases current)) :=
  if_pos hkey

theorem standing_of_notMem (hkey : key ∉ set.keys) :
    set.standing live key
      = (live.get? key).map fun object => if isTerminating object then .leaving else .unwanted :=
  if_neg hkey

theorem standing_eq_absent :
    set.standing live key = some .absent ↔ key ∈ set.keys ∧ live.get? key = none := by
  by_cases hkey : key ∈ set.keys
  · rw [standing_of_mem hkey]
    cases live.get? key <;> simp [hkey]
  · rw [standing_of_notMem hkey]
    cases live.get? key with
    | none => simp [hkey]
    | some object => by_cases hterm : isTerminating object = true <;> simp [hkey, hterm]

theorem standing_eq_live {released : Bool} :
    set.standing live key = some (.live released) ↔
      key ∈ set.keys ∧ ∃ object, live.get? key = some object ∧ set.releases object = released := by
  by_cases hkey : key ∈ set.keys
  · rw [standing_of_mem hkey]
    cases live.get? key <;> simp [hkey]
  · rw [standing_of_notMem hkey]
    cases live.get? key with
    | none => simp [hkey]
    | some object => by_cases hterm : isTerminating object = true <;> simp [hkey, hterm]

theorem exists_standing_live :
    (∃ s, set.standing live key = some s ∧ ∃ released, s = .live released) ↔
      key ∈ set.keys ∧ (live.get? key).isSome = true := by
  rw [Option.isSome_iff_exists]
  constructor
  · rintro ⟨_, hs, released, rfl⟩
    obtain ⟨hkey, object, hobject, -⟩ := standing_eq_live.1 hs
    exact ⟨hkey, object, hobject⟩
  · rintro ⟨hkey, object, hobject⟩
    exact ⟨_, standing_eq_live.2 ⟨hkey, object, hobject, rfl⟩, _, rfl⟩

theorem standing_eq_unwanted :
    set.standing live key = some .unwanted ↔ key ∉ set.keys ∧
      ∃ object, live.get? key = some object ∧ isTerminating object = false := by
  by_cases hkey : key ∈ set.keys
  · rw [standing_of_mem hkey]
    cases live.get? key <;> simp [hkey]
  · rw [standing_of_notMem hkey]
    cases live.get? key with
    | none => simp [hkey]
    | some object => by_cases hterm : isTerminating object = true <;> simp [hkey, hterm]

theorem standing_desired (hkey : key ∈ set.keys) {s : Standing}
    (hs : set.standing live key = some s) : s = .absent ∨ ∃ released, s = .live released := by
  rw [standing_of_mem hkey] at hs
  obtain rfl := Option.some.inj hs
  cases live.get? key <;> simp

theorem standing_undesired (hkey : key ∉ set.keys) {s : Standing}
    (hs : set.standing live key = some s) : s = .unwanted ∨ s = .leaving := by
  rw [standing_of_notMem hkey] at hs
  obtain ⟨object, -, rfl⟩ := Option.map_eq_some_iff.1 hs
  by_cases hterm : isTerminating object = true <;> simp [hterm]

/-- The keys that are something to the set are visited, and no others. -/
theorem mem_visitOrder : key ∈ set.visitOrder live ↔ (set.standing live key).isSome = true := by
  rw [visitOrder, List.mem_append, List.mem_eraseDups, List.mem_filter, OrdMap.mem_keys, standing]
  by_cases hkey : key ∈ set.keys <;> simp [hkey]

end Standings

end ObjectSet

/-! ## Single visits -/

namespace Episode

variable {kind : String} {key : ObjectKey} {s : Standing} {v : Visit} {notes : List Note}

theorem begun (h : Episode kind key s v notes) :
    notes.filter (·.isFirst) = (s.firstQuestion?.map (Note.asked · key)).toList := by
  cases h <;> rfl

theorem writes (h : Episode kind key s v notes) : (notes.filter (·.isWrite)).length ≤ 1 := by
  cases h <;> simp [Note.isWrite]

theorem count_status (h : Episode kind key s v notes) :
    notes.count (.asked .status key) =
      match s with
      | .live _ => 1
      | .absent => if .wrote .create key true ∈ notes then 1 else 0
      | .unwanted | .leaving => 0 := by
  cases h <;> simp

theorem created_iff (h : Episode kind key s v notes) :
    v.outcome = .created ↔ s = .absent ∧ .wrote .create key true ∈ notes := by
  cases h <;> simp

theorem updated_iff (h : Episode kind key s v notes) :
    v.outcome = .updated ↔ (∃ released, s = .live released) ∧ .wrote .update key true ∈ notes := by
  cases h <;> simp

theorem recreated_iff (h : Episode kind key s v notes) :
    v.outcome = .recreated ↔ (∃ released, s = .live released) ∧ .wrote .delete key true ∈ notes := by
  cases h <;> simp

theorem deleted_iff (h : Episode kind key s v notes) :
    v.outcome = .deleted ↔ s = .unwanted ∧ .wrote .delete key true ∈ notes := by
  cases h <;> simp

theorem judged (h : Episode kind key .unwanted v notes) :
    ∃ verdict, notes.filter (·.isAnswer) = [.answered (.verdict verdict) key] := by
  cases h <;> exact ⟨_, rfl⟩

theorem compared {released : Bool} (h : Episode kind key (.live released) v notes) :
    ∃ changes, notes.filter (·.isAnswer) = [.answered (.pending changes) key] := by
  cases h <;> exact ⟨_, rfl⟩

theorem allowed_iff (h : Episode kind key s v notes) (hs : s = .unwanted ∨ s = .leaving) :
    (∃ done, .wrote .delete key done ∈ notes) ↔ .answered (.verdict .allow) key ∈ notes := by
  cases h <;> simp at hs ⊢

theorem refused_iff (h : Episode kind key s v notes) (why : OrphanStatus) :
    v.outcome = .orphaned why ↔ .answered (.verdict (.refuse why)) key ∈ notes := by
  cases h <;> simp [eq_comm]

theorem madeAnew_iff (h : Episode kind key s v notes)
    (hs : s = .absent ∨ ∃ released, s = .live released) :
    (∃ done, .wrote .delete key done ∈ notes) ↔
      ∃ changes, .answered (.pending changes) key ∈ notes ∧ changes ≠ [] ∧ s = .live true := by
  cases h with
  | upToDate changes hkept | updated changes hkept | updateFailed changes hkept e =>
      simpa using hkept.resolve_left
  | recreated changes hsome | recreateFailed changes hsome e => simpa using hsome
  | skipped | created | createFailed e => simp
  | _ => simp at hs

theorem turnedDown (h : Episode kind key .unwanted v notes) :
    v.outcome = .deleted ∨ (∃ why, v.outcome = .orphaned why) ∨
      ∃ e, v.failure = some e ∧ e.key = key ∧ e.verb = .delete := by
  cases h <;> simp

end Episode

/-! ## The result -/

namespace ObjectSet

section Accounts

variable {set : ObjectSet} {live : OrdMap ObjectKey K} {kind : String} {vs : List Visit}
variable {log : List Note} {key : ObjectKey}

/-- A key that is something to the set has its visit, and the log tells how it went. -/
theorem exists_episode (h : Episodes kind (set.standing live) (set.visitOrder live) vs log)
    {s : Standing} (hs : set.standing live key = some s) :
    ∃ v ∈ vs, Episode kind key s v (log.filter (·.concerns key)) := by
  have hmem : key ∈ set.visitOrder live := mem_visitOrder.2 (by rw [hs]; rfl)
  obtain ⟨s', v, hs', hv, hepisode⟩ := h.at_key (set.nodup_visitOrder live) hmem
  obtain rfl : s = s' := Option.some.inj (hs.symm.trans hs')
  exact ⟨v, hv, hepisode⟩

/-- What the log has about a key, if anything, is what was noted when the key had its turn. -/
theorem at_turn (h : Episodes kind (set.standing live) (set.visitOrder live) vs log) (key : ObjectKey)
    {P : List Note → Prop} (hnone : set.standing live key = none → P [])
    (hturn : ∀ s v notes, set.standing live key = some s → Episode kind key s v notes → P notes) :
    P (log.filter (·.concerns key)) := by
  cases hs : set.standing live key with
  | none =>
      have hempty : log.filter (·.concerns key) = [] := by
        refine h.filter_log_of_notMem fun hmem => ?_
        rw [mem_visitOrder, hs] at hmem
        cases hmem
      rw [hempty]
      exact hnone hs
  | some s =>
      obtain ⟨v, -, hepisode⟩ := exists_episode h hs
      exact hturn s v _ hs hepisode

theorem count_status_eq (log : List Note) (key : ObjectKey) :
    log.count (.asked .status key) = (log.filter (·.concerns key)).count (.asked .status key) :=
  (List.count_filter (Note.concerns_iff.2 rfl)).symm

theorem accounted (h : Episodes kind (set.standing live) (set.visitOrder live) vs log) :
    Accounted set live { kind, visits := vs } log := by
  have hnodup := set.nodup_visitOrder live
  have hvisits : (SetReport.visits { kind, visits := vs } |>.map (·.key)).Nodup := by
    rw [h.map_key]
    exact hnodup
  constructor
  case once => exact hnodup
  case visited => exact h.map_key
  case turns => exact h.grouped hnodup
  case begun =>
    intro key
    rw [← List.filter_filter]
    refine at_turn h key (P := fun notes => notes.filter (·.isFirst)
      = (((set.standing live key).bind (·.firstQuestion?)).map (Note.asked · key)).toList) ?_ ?_
    · intro hs
      rw [hs]
      rfl
    · intro s v notes hs hepisode
      rw [hs]
      exact hepisode.begun
  case writes =>
    intro key
    rw [← List.filter_filter]
    exact at_turn h key (P := fun notes => (notes.filter (·.isWrite)).length ≤ 1)
      (fun _ => Nat.zero_le 1) fun s v notes _ hepisode => hepisode.writes
  case statusLive =>
    intro key hkey hlive
    obtain ⟨_, hs, released, rfl⟩ := exists_standing_live.2 ⟨hkey, hlive⟩
    obtain ⟨v, -, hepisode⟩ := exists_episode h hs
    rw [count_status_eq, hepisode.count_status]
  case statusAbsent =>
    intro key hkey hlive
    obtain ⟨v, -, hepisode⟩ := exists_episode h (standing_eq_absent.2 ⟨hkey, hlive⟩)
    rw [count_status_eq, hepisode.count_status]
    simp [Note.concerns, Note.key?]
  case statusOther =>
    intro key hkey
    rw [count_status_eq]
    refine at_turn h key (P := fun notes => notes.count (.asked .status key) = 0) (fun _ => rfl) ?_
    intro s v notes hs hepisode
    rw [hepisode.count_status]
    obtain rfl | rfl := standing_undesired hkey hs <;> rfl
  case apart => exact SetReport.nodup_keys hvisits
  case created =>
    intro key
    have hcreated : (Note.wrote .create (some key) true).concerns key = true := Note.concerns_iff.2 rfl
    have hiff := h.mem_keysOf_iff hnodup hcreated fun _ _ _ he => he.created_iff
    rwa [exists_eq_right, standing_eq_absent] at hiff
  case updated =>
    intro key
    rw [← exists_standing_live]
    exact h.mem_keysOf_iff hnodup (Note.concerns_iff.2 rfl) fun _ _ _ he => he.updated_iff
  case recreated =>
    intro key
    rw [← exists_standing_live]
    exact h.mem_keysOf_iff hnodup (Note.concerns_iff.2 rfl) fun _ _ _ he => he.recreated_iff
  case deleted =>
    intro key
    have hdeleted : (Note.wrote .delete (some key) true).concerns key = true := Note.concerns_iff.2 rfl
    have hiff := h.mem_keysOf_iff hnodup hdeleted fun _ _ _ he => he.deleted_iff
    rwa [exists_eq_right, standing_eq_unwanted] at hiff
  case judged =>
    intro key object hkey hlive hterm
    obtain ⟨v, -, hepisode⟩ := exists_episode h (standing_eq_unwanted.2 ⟨hkey, object, hlive, hterm⟩)
    rw [← List.filter_filter]
    exact hepisode.judged
  case allowed =>
    intro key hkey
    have hiff := at_turn h key (P := fun notes =>
      (∃ done, .wrote .delete key done ∈ notes) ↔ .answered (.verdict .allow) key ∈ notes)
      (fun _ => by simp) fun s v notes hs hepisode => hepisode.allowed_iff (standing_undesired hkey hs)
    simpa [List.mem_filter, Note.concerns, Note.key?] using hiff
  case refused =>
    intro key why
    have hconcerns : (Note.answered (.verdict (.refuse why)) key).concerns key = true :=
      Note.concerns_iff.2 rfl
    rw [SetReport.orphaned_eq_some hvisits, ← SetReport.mem_keysOf]
    refine (h.mem_keysOf_iff hnodup (p := fun _ => True) hconcerns fun s v notes hepisode => ?_).trans ?_
    · rw [hepisode.refused_iff, true_and]
    · refine and_iff_right_of_imp fun hn => ?_
      obtain ⟨s, hs⟩ := Option.isSome_iff_exists.1 (mem_visitOrder.1 (h.mem_keys hn hconcerns))
      exact ⟨s, hs, trivial⟩
  case compared =>
    intro key hkey hlive
    obtain ⟨_, hs, released, rfl⟩ := exists_standing_live.2 ⟨hkey, hlive⟩
    obtain ⟨v, -, hepisode⟩ := exists_episode h hs
    rw [← List.filter_filter]
    exact hepisode.compared
  case madeAnew =>
    intro key hkey
    have hiff := at_turn h key (P := fun notes => (∃ done, .wrote .delete key done ∈ notes) ↔
      ∃ changes, .answered (.pending changes) key ∈ notes ∧ changes ≠ [] ∧
        set.standing live key = some (.live true)) (fun _ => by simp) fun s v notes hs hepisode => by
      rw [hepisode.madeAnew_iff (standing_desired hkey hs), hs]
      simp only [Option.some.injEq]
    simp only [List.mem_filter, Note.concerns, Note.key?, beq_self_eq_true, and_true, standing_eq_live,
      hkey, true_and, releases, Bool.or_eq_true] at hiff
    rw [hiff]
    constructor
    · rintro ⟨changes, hchanges, hsome, object, hobject, hreleased⟩
      exact ⟨object, changes, hobject, hchanges, hsome, hreleased⟩
    · rintro ⟨object, changes, hobject, hchanges, hsome, hreleased⟩
      exact ⟨changes, hchanges, hsome, object, hobject, hreleased⟩
  case turnedDown =>
    intro key object hkey hlive hterm
    obtain ⟨v, hv, hepisode⟩ :=
      exists_episode h (standing_eq_unwanted.2 ⟨hkey, object, hlive, hterm⟩)
    rcases hepisode.turnedDown with hdeleted | horphaned | ⟨e, he, herror⟩
    · exact .inl (SetReport.mem_keysOf.2 ⟨v, hv, hepisode.key_eq, hdeleted⟩)
    · exact .inr (.inl (SetReport.isSome_orphaned.2 ⟨v, hv, hepisode.key_eq, horphaned⟩))
    · exact .inr (.inr ⟨e, List.mem_filterMap.2 ⟨v, hv, he⟩, herror⟩)
  case failures => exact h.failures.1
  case told => exact h.failures.2

end Accounts

/-- *Accounts of the reconciler.* Whenever the objects can be listed, reconciling gives a report, and
noting all that is done on the way changes nothing; and the report and the notes add up. -/
theorem reconcile_accounts [DecidableEq K] (store : ObjectStore σ K) {strategy : Strategy σ K}
    (hstrategy : strategy.KeepsKeys) (set : ObjectSet) (s : σ) {objects : List K}
    (hlist : (store.list set.ns set.selector s).1 = .ok objects) :
    let plain := set.reconcile store strategy s
    let noted := set.reconcile store.recorded strategy.recorded { world := s }
    noted.1 = plain.1 ∧ noted.2.world = plain.2 ∧
      ∃ report, plain.1 = .ok report ∧ Accounted set (live objects) report noted.2.log := by
  intro plain noted
  have hlive : ∀ key object, (live objects).get? key = some object →
      ManagedObject.key? object = some key := fun key object h => (key?_of_live h).2
  obtain ⟨log, hrun, hlog⟩ := visitAll_records store hstrategy set hlive
    (store.list set.ns set.selector s).2 []
  rw [List.nil_append] at hrun
  -- listing leaves no note, so all notes are those of the visits
  have hplain : plain = (.ok { kind := ManagedObject.kind K
                               visits := (visitAll store strategy set (live objects)
                                 (store.list set.ns set.selector s).2).1 },
      (visitAll store strategy set (live objects) (store.list set.ns set.selector s).2).2) := by
    simp only [plain, reconcile, bind_apply, hlist]
    rfl
  have hnoted : noted = (plain.1, ⟨plain.2, log⟩) := by
    have hnotedList : store.recorded.list set.ns set.selector { world := s }
        = (.ok objects, ⟨(store.list set.ns set.selector s).2, []⟩) :=
      Prod.ext hlist rfl
    simp only [noted, reconcile, bind_apply, hnotedList, hrun, hplain]
    rfl
  refine ⟨by rw [hnoted], by rw [hnoted], _, by rw [hplain], ?_⟩
  rw [hnoted]
  exact accounted hlog

end ObjectSet

/-! ## Strategies that mind the keys -/

theorem podStrategy_keepsKeys (input : PassInput σ) : (podStrategy input).KeepsKeys where
  newObject key s p h := by
    obtain ⟨t, -, rfl⟩ := Option.map_eq_some_iff.1 h
    rfl
  updateInPlace key p s := by
    simp only [podStrategy, bind_apply, get_apply]
    cases s.tablets.get? key <;> rfl
  prepareForTurndown key p s := by
    simp only [podStrategy, bind_apply, get_apply, Turndown.pod]
    split
    · rfl
    · simp only [pure_apply, ObjectMeta.startDrain]
      split <;> rfl

theorem claimStrategy_keepsKeys (input : PassInput σ) : (claimStrategy input).KeepsKeys where
  newObject key s c h := by
    obtain ⟨t, -, hnew⟩ := Option.bind_eq_some_iff.1 h
    obtain ⟨template, -, rfl⟩ := Option.map_eq_some_iff.1 hnew
    rfl
  updateInPlace key c s := by
    simp only [claimStrategy, bind_apply, get_apply]
    cases s.tablets.get? key with
    | none => rfl
    | some t => exact Shard.key?_updateInPlace c t
  prepareForTurndown key c s := rfl

/-- The config map of the given name in a namespace. -/
def ConfigMap.named (key : ObjectKey) : ConfigMap :=
  { metadata := { name := some key.name, ns := some key.ns } }

/-- Config maps are to have data, even if it is empty. -/
def Strategy.sample : Strategy MemoryStore ConfigMap where
  newObject key := pure (some (.named key))
  updateInPlace _ c := pure { c with data := some .empty }

theorem Strategy.sample_keepsKeys : Strategy.sample.KeepsKeys where
  newObject key s c h := by
    obtain rfl := Option.some.inj h
    rfl
  updateInPlace _ _ _ := rfl
  prepareForTurndown _ _ _ := rfl

/-- Of three config maps one is stored and desired, one desired, and one stored. -/
def ObjectSet.sample : ObjectSet where
  ns := "test"
  selector := .empty
  keys := [⟨"test", "b"⟩, ⟨"test", "a"⟩, ⟨"test", "b"⟩]
  now := .sample

/-- The one that is stored and desired cannot be updated. -/
def MemoryStore.sampleRefusing : MemoryStore :=
  let s : MemoryStore := MemoryStore.sample.reject .update "b"
  let s := ((MemoryStore.calls ConfigMap).create (.named ⟨"test", "b"⟩) s).2
  ((MemoryStore.calls ConfigMap).create (.named ⟨"test", "c"⟩) s).2

def MemoryStore.sampleListed : List ConfigMap := sampleRefusing.list ConfigMap "test" .empty

/-- The failed update keeps neither the status of its own object from being taken nor the others from having
their turns. -/
theorem failed_update_stops_nothing :
    let noted := ObjectSet.sample.reconcile (MemoryStore.calls ConfigMap).recorded
      Strategy.sample.recorded { world := .sampleRefusing }
    ∃ report, noted.1 = .ok report ∧
      report.visits.map (·.key) = [⟨"test", "b"⟩, ⟨"test", "a"⟩, ⟨"test", "c"⟩] ∧
      report.errors.map (fun e => (e.verb, e.key)) = [(.update, ⟨"test", "b"⟩)] ∧
      noted.2.log.count (.asked .status ⟨"test", "b"⟩) = 1 ∧
      ⟨"test", "a"⟩ ∈ report.created := by
  have hlist : ((MemoryStore.calls ConfigMap).list "test" .empty .sampleRefusing).1
      = .ok MemoryStore.sampleListed := rfl
  have haccounts := ObjectSet.reconcile_accounts (MemoryStore.calls ConfigMap)
    Strategy.sample_keepsKeys .sample .sampleRefusing hlist
  dsimp only at haccounts ⊢
  obtain ⟨hsame, -, report, hreport, haccounts⟩ := haccounts
  refine ⟨report, hsame.trans hreport, haccounts.visited.trans (by decide +kernel),
    haccounts.failures.trans (by decide +kernel), ?_, ?_⟩
  · exact haccounts.statusLive ⟨"test", "b"⟩ (by decide) (by decide +kernel)
  · exact (haccounts.created ⟨"test", "a"⟩).2 (by decide +kernel)

end TabletFleet
