import TabletFleet.Proofs.Pass.Recreation
import TabletFleet.Proofs.Pass.Selection
import TabletFleet.Proofs.RestartDetection
import TabletFleet.Proofs.SteadyState

set_option autoImplicit false

/-! # Whether recreation comes to an end

A pod that was made anew ought to be as desired, so that the pass after finds nothing pending. -/

namespace TabletFleet

open ManagedObject (metadata mapMetadata)

/-! ## Resizes that are due for good -/

namespace TabletSpec

variable {t : TabletSpec} {w : MemoryStore} {key : ObjectKey} {size : Quantity}

theorem resizedIn_of_not_due (h : ∀ size, ¬t.ResizeDue w key size) : t.resizedIn w key = t := by
  simp only [resizeDue_iff] at h
  rw [resizedIn, markResize, Option.eq_none_iff_forall_ne_some.2 h]

theorem resizedIn_of_due (h : t.ResizeDue w key size) : t.resizedIn w key =
    { t with annotations := t.annotations.insert AnnotationKey.filesystemResize size.text } := by
  rw [resizeDue_iff] at h
  rw [resizedIn, markResize, h]

theorem get?_annotations_resizedIn_of_ne {k : String} (hk : k ≠ AnnotationKey.filesystemResize) :
    (t.resizedIn w key).annotations.get? k = t.annotations.get? k := by
  by_cases hdue : ∃ size, t.ResizeDue w key size
  · obtain ⟨size, hdue⟩ := hdue
    rw [resizedIn_of_due hdue, OrdMap.get?_insert, if_neg hk]
  · rw [resizedIn_of_not_due fun size h => hdue ⟨size, h⟩]

/-- Nothing is due for a claim on which the cluster has not reported. -/
theorem resizedIn_of_unreported (h : ∀ c, w.fetch? Claim key = some c → c.status = none) :
    t.resizedIn w key = t := by
  refine resizedIn_of_not_due fun size hdue => ?_
  obtain ⟨-, c, hc, -, -, pending, hpending, -⟩ := hdue
  rw [h c hc] at hpending
  cases hpending

end TabletSpec

namespace Shard

section Claims

variable {shard : Shard} {topology : Topology} {config : PassConfig} {now now' : Timestamp}
variable {w : MemoryStore} {key : ObjectKey} {t : TabletSpec}

theorem rejects_of_nil (h : w.rejections = []) (verb : Verb) (name : String) :
    w.rejects verb name = false := by
  rw [MemoryStore.rejects, h]
  rfl

/-- Passes do not report on claims. -/
theorem unreported_afterPass (h : ∀ c, w.fetch? Claim key = some c → c.status = none) {c' : Claim}
    (hc' : (shard.afterPass topology config now w).fetch? Claim key = some c') :
    c'.status = none := by
  cases claimOrigin hc' with
  | kept _ before => exact h c' before
  | created t c n desired tablet new =>
      obtain ⟨template, -, rfl⟩ := Option.map_eq_some_iff.1 new
      rfl
  | updated t c n tablet before =>
      rw [← Claim.kept, Claim.kept_eq]
      exact congrArg (Option.map ClaimStatus.written) (h c before)

/-- A pass that finds the claim up to date does not touch it. -/
theorem resizedIn_afterPass_of_upToDate (hkey : key ∈ shard.claimKeys)
    (ht : shard.byKey.get? key = some t)
    (hattended : ObjectSet.Attended (t.newClaim? key) (w.rejects · key.name) (w.fetch? Claim key))
    (hupToDate : ObjectSet.UpToDate (·.kept t) (w.rejects · key.name) (shard.found Claim w key)) :
    t.resizedIn (shard.afterPass topology config now w) key = t.resizedIn w key := by
  obtain ⟨n, hafter⟩ := claim_upkeep topology config now w hkey ht
  have hsame := hafter.trans
    (Action.leaves_of_idle (ObjectSet.idle_upkeep hattended hupToDate) n)
  rw [TabletSpec.resizedIn, TabletSpec.resizedIn, hsame, rejects_afterPass]

variable (topology config now now' w) in
/-- After one pass the claims are as they stay, as far as resizes are concerned. -/
theorem resizedIn_second_pass (ht : shard.byKey.get? key = some t) :
    t.resizedIn (shard.afterPass topology config now' (shard.afterPass topology config now w)) key
      = t.resizedIn (shard.afterPass topology config now w) key := by
  obtain ⟨hmem, hkey⟩ := of_byKey ht
  cases htemplate : t.claimTemplate with
  | none =>
      have hnever : ∀ w : MemoryStore, t.resizedIn w key = t := fun w =>
        TabletSpec.resizedIn_of_not_due fun size ⟨_, _, _, hsize, _⟩ => by
          rw [htemplate] at hsize
          cases hsize
      rw [hnever, hnever]
  | some template =>
      have hclaim : key ∈ shard.claimKeys :=
        mem_claimKeys_iff.2 ⟨t, hmem, by rw [htemplate]; rfl, hkey⟩
      cases hc : w.fetch? Claim key with
      | none =>
          -- the claim is new, and nobody reports on it
          have hfirst : ∀ c, (shard.afterPass topology config now w).fetch? Claim key = some c →
              c.status = none :=
            fun c => unreported_afterPass fun c' hc' => by rw [hc] at hc'; cases hc'
          rw [TabletSpec.resizedIn_of_unreported hfirst,
            TabletSpec.resizedIn_of_unreported fun c => unreported_afterPass hfirst]
      | some c =>
          -- the claim was brought up to date
          obtain ⟨n, hfirst⟩ := claim_upkeep topology config now w hclaim ht
          refine resizedIn_afterPass_of_upToDate hclaim ht ?_ ?_
          · rw [rejects_afterPass_name, hfirst]
            exact ObjectSet.attended_leaves
          · rw [rejects_afterPass_name, found, hfirst]
            refine ObjectSet.upToDate_leaves (.inl (by rw [hc]; rfl)) fun c => ?_
            rw [Claim.kept_storedAs, Claim.kept_kept]

end Claims

/-! ## New pods -/

section New

variable {shard : Shard} {t : TabletSpec} {w : MemoryStore} {key : ObjectKey}

/-- What is new of a tablet is up to date: its annotations leave those that are kept up on its pod, and the
size is among them for which a resize of its file system is due. -/
structure NewIsUpToDate (shard : Shard) (t : TabletSpec) (w : MemoryStore) (key : ObjectKey) :
    Prop where
  hash : ∀ v, t.annotations.get? AnnotationKey.specHash = some v → v = t.podSpec.hash
  generation : ∀ v, t.annotations.get? AnnotationKey.observedGeneration = some v →
    v = toString shard.generation.toInt
  resize : ∀ size, t.ResizeDue w key size →
    t.annotations.get? AnnotationKey.filesystemResize = some size.text

variable (shard t key) in
/-- The annotations of a new pod, brought up to date but for its rollout markers. -/
theorem get?_nextAnnotations_newPod (stamp : Stamp) (k : String) :
    (shard.nextAnnotations t (storedAs stamp true (t.newPod key))).get? k =
      if k = AnnotationKey.observedGeneration then some (toString shard.generation.toInt)
      else if k = AnnotationKey.specHash then (t.annotations.get? k).or (some t.podSpec.hash)
      else t.annotations.get? k := by
  have hnew : (storedAs stamp true (t.newPod key)).metadata.annotation? k
      = (t.annotations.insert AnnotationKey.specHash t.podSpec.hash).get? k := rfl
  rw [get?_nextAnnotations, hnew, podAnnotations, OrdMap.get?_insert, OrdMap.get?_insert]
  split
  · rfl
  · split
    · rfl
    · rw [Option.or_self]

theorem or_some_eq_some_iff {α : Type} {o : Option α} {a : α} :
    o.or (some a) = some a ↔ ∀ v, o = some v → v = a := by
  cases o with
  | none => simp
  | some v => simp

/-- What is due for a tablet is there already if its annotations have it. -/
theorem get?_annotations_resizedIn_or_iff {k : String} :
    ((t.resizedIn w key).annotations.get? k).or (t.annotations.get? k) = t.annotations.get? k ↔
      (k = AnnotationKey.filesystemResize →
        ∀ size, t.ResizeDue w key size → t.annotations.get? k = some size.text) := by
  by_cases hk : k = AnnotationKey.filesystemResize
  · subst hk
    by_cases hdue : ∃ size, t.ResizeDue w key size
    · obtain ⟨size, hdue⟩ := hdue
      rw [TabletSpec.resizedIn_of_due hdue, OrdMap.get?_insert, if_pos rfl, Option.or]
      constructor
      · intro hsame _ size' hdue'
        rw [TabletSpec.resizeDue_iff] at hdue hdue'
        rw [← Option.some.inj (hdue.symm.trans hdue')]
        exact hsame.symm
      · exact fun h => (h rfl size hdue).symm
    · rw [TabletSpec.resizedIn_of_not_due fun size h => hdue ⟨size, h⟩, Option.or_self]
      exact ⟨fun _ _ size h => absurd ⟨size, h⟩ hdue, fun _ => rfl⟩
  · rw [TabletSpec.get?_annotations_resizedIn_of_ne hk, Option.or_self]
    exact ⟨fun _ h => absurd h hk, fun _ => rfl⟩

/-- What making the new pod anew would change of its annotations, one by one. -/
theorem get?_anewAnnotations_newPod_iff (stamp : Stamp) (k : String) :
    let a := shard.nextAnnotations t (storedAs stamp true (t.newPod key))
    (anewAnnotations (t.resizedIn w key) a).get? k = a.get? k ↔
      (k = AnnotationKey.specHash → ∀ v, t.annotations.get? k = some v → v = t.podSpec.hash) ∧
      (k = AnnotationKey.observedGeneration →
        ∀ v, t.annotations.get? k = some v → v = toString shard.generation.toInt) ∧
      (k = AnnotationKey.filesystemResize →
        ∀ size, t.ResizeDue w key size → t.annotations.get? k = some size.text) := by
  intro a
  rw [anewAnnotations, OrdMap.get?_insert, OrdMap.get?_merge, t.podSpec_resizedIn,
    get?_nextAnnotations_newPod]
  by_cases hhash : k = AnnotationKey.specHash
  · subst hhash
    rw [if_pos rfl, if_neg (by decide), if_pos rfl, eq_comm, or_some_eq_some_iff]
    simp [AnnotationKey.specHash, AnnotationKey.observedGeneration, AnnotationKey.filesystemResize]
  · rw [if_neg hhash, if_neg hhash]
    by_cases hgeneration : k = AnnotationKey.observedGeneration
    · subst hgeneration
      rw [if_pos rfl, TabletSpec.get?_annotations_resizedIn_of_ne (by decide), or_some_eq_some_iff]
      simp [AnnotationKey.specHash, AnnotationKey.observedGeneration, AnnotationKey.filesystemResize]
    · rw [if_neg hgeneration, get?_annotations_resizedIn_or_iff]
      simp [hhash, hgeneration]

variable (shard t w key) in
/-- Making the new pod anew would change none of its annotations just when it is up to date. -/
theorem anewAnnotations_newPod_iff (stamp : Stamp) :
    anewAnnotations (t.resizedIn w key)
        (shard.nextAnnotations t (storedAs stamp true (t.newPod key)))
      = shard.nextAnnotations t (storedAs stamp true (t.newPod key)) ↔
        shard.NewIsUpToDate t w key := by
  constructor
  · intro hsame
    have hat := fun k => (get?_anewAnnotations_newPod_iff stamp k).1 (congrArg (OrdMap.get? · k) hsame)
    exact ⟨(hat _).1 rfl, (hat _).2.1 rfl, (hat _).2.2 rfl⟩
  · rintro ⟨hash, generation, resize⟩
    refine OrdMap.ext_get? fun k => (get?_anewAnnotations_newPod_iff stamp k).2 ⟨?_, ?_, ?_⟩
    · rintro rfl
      exact hash
    · rintro rfl
      exact generation
    · rintro rfl
      exact resize

/-- Nothing is pending on the new pod of a tablet just when it is up to date. -/
theorem podPending_newPod_eq_nil_iff (stamp : Stamp) :
    shard.podPending t (t.resizedIn w key) (storedAs stamp true (t.newPod key)) = [] ↔
      shard.NewIsUpToDate t w key := by
  let q := storedAs stamp true (t.newPod key)
  have hannotations := anewAnnotations_newPod_iff shard t w key stamp
  rw [podPending_eq (marks_resizedIn t w key), Pod.changedPaths_remade_eq_nil (annotations_podNext q),
    hannotations]
  -- annotations that stay record the hash, so the specification stays as well
  intro hsame
  obtain ⟨hash, -, -⟩ := hannotations.1 hsame
  rw [anewSpec, if_pos]
  · rfl
  · rw [OrdMap.get?_merge, TabletSpec.get?_annotations_resizedIn_of_ne (by decide),
      get?_nextAnnotations_newPod, if_neg (by decide), if_pos rfl, t.podSpec_resizedIn]
    cases hv : t.annotations.get? AnnotationKey.specHash with
    | none => rfl
    | some v => rw [hash v hv]; rfl

end New

/-! ## One pass -/

section Pass

variable {shard : Shard} {topology : Topology} {config : PassConfig} {now : Timestamp}
variable {w : MemoryStore} {key : ObjectKey} {t : TabletSpec} {p : Pod}

theorem scheduled?_podKept (shard : Shard) (t anew : TabletSpec) (p : Pod) :
    (shard.podKept t anew p).metadata.scheduled? = none ↔ shard.podPending t anew p = [] := by
  rw [podKept, ObjectMeta.scheduled?, ObjectMeta.annotation?, ObjectMeta.kept, Option.bind_some,
    rolloutMarked]
  by_cases hnone : shard.podPending t anew p = []
  · simp [hnone, OrdMap.get?_erase]
  · simp [hnone, OrdMap.get?_insert]

variable (topology config now) in
theorem pod_created (hrejections : w.rejections = []) (ht : shard.byKey.get? key = some t)
    (hnone : w.fetch? Pod key = none) :
    ∃ stamp, (shard.afterPass topology config now w).fetch? Pod key
      = some (storedAs stamp true (t.newPod key)) := by
  have hkey : key ∈ shard.keys := (shard.isSome_byKey key).1 (by rw [ht]; rfl)
  obtain ⟨stamp, hafter⟩ := pod_desired now w topology config hkey
  refine ⟨stamp, ?_⟩
  rw [hafter, livePods_eq_found, found, hnone, Option.filter_none, podAction, ht]
  simp only [Action.leaves, rejects_of_nil hrejections]
  rfl

variable (topology config now) in
/-- What becomes of a pod that is found, given what its claim comes to. -/
theorem pod_visited (ht : shard.byKey.get? key = some t) (hp : shard.found Pod w key = some p) :
    let anew := t.resizedIn (shard.afterPass topology config now w) key
    ∃ stamp, (shard.afterPass topology config now w).fetch? Pod key =
      (if shard.podPending t anew p ≠ [] ∧
          (shard.spec.updateStrategy = .immediate ∨ p.metadata.released = true) then .delete
        else .replace p (shard.podKept t anew p) : Action Pod).leaves (w.rejects · key.name) stamp
          (some p) := by
  intro anew
  have hkey : key ∈ shard.keys := (shard.isSome_byKey key).1 (by rw [ht]; rfl)
  obtain ⟨stamp, hafter⟩ := pod_desired now w topology config hkey
  refine ⟨stamp, ?_⟩
  rw [hafter, livePods_eq_found, hp, podAction_found ht, found_eq_some hp]
  simp only [anew, resizedIn_afterPass]

/-- A pod of which nothing is pending is kept, and nothing is pending of it then. -/
theorem found_of_nothing_pending (hrejections : w.rejections = [])
    (ht : shard.byKey.get? key = some t) (hp : shard.found Pod w key = some p)
    (hnone : shard.podPending t (t.resizedIn (shard.afterPass topology config now w) key) p = []) :
    ∃ p', shard.found Pod (shard.afterPass topology config now w) key = some p' ∧
      p'.metadata.scheduled? = none ∧
      shard.podPending t (t.resizedIn (shard.afterPass topology config now w) key) p' = [] := by
  obtain ⟨n, hafter⟩ := pod_visited topology config now ht hp
  rw [if_neg fun h => h.1 hnone] at hafter
  obtain ⟨p', hp'⟩ : ∃ p', (shard.afterPass topology config now w).fetch? Pod key = some p' := by
    rw [hafter, ← Option.isSome_iff_exists]
    exact Action.isSome_leaves (Action.replace_ne_delete _ _) _ n rfl
  have hlisted : p'.metadata.isListed shard.ns shard.labels = true :=
    isListed_of_podOrigin (podOrigin hp') fun q hq => by
      rw [found_eq_some hp] at hq
      exact Option.some.inj hq ▸ (Option.filter_eq_some_iff.1 hp).2
  refine ⟨p', Option.filter_eq_some_iff.2 ⟨hp', hlisted⟩, ?_⟩
  have hmarks := marks_resizedIn t (shard.afterPass topology config now w) key
  rw [hp'] at hafter
  generalize t.resizedIn (shard.afterPass topology config now w) key = anew at *
  rcases Action.leaves_replace_cases hafter.symm with ⟨rfl, hsame | hrejected⟩ | rfl
  · refine ⟨?_, hnone⟩
    rw [← hsame, scheduled?_podKept]
    exact hnone
  · rw [rejects_of_nil hrejections] at hrejected
    cases hrejected
  · refine ⟨(scheduled?_podKept shard t anew p).2 hnone, ?_⟩
    rw [podPending_stored hmarks]
    exact hnone

/-- A found pod is there after a pass, and no changes of it are announced, just when none are pending. -/
theorem unscheduled_iff (hrejections : w.rejections = []) (ht : shard.byKey.get? key = some t)
    (hp : shard.found Pod w key = some p) :
    (∃ p', (shard.afterPass topology config now w).fetch? Pod key = some p' ∧
        p'.metadata.scheduled? = none) ↔
      shard.podPending t (t.resizedIn (shard.afterPass topology config now w) key) p = [] := by
  constructor
  · rintro ⟨p', hp', hunscheduled⟩
    obtain ⟨n, hafter⟩ := pod_visited topology config now ht hp
    rw [hp'] at hafter
    split at hafter
    · rw [Action.leaves, rejects_of_nil hrejections] at hafter
      cases hafter
    · -- what is stored is the pod with the markers that it has to have
      rw [← scheduled?_podKept]
      rcases Action.leaves_replace_cases hafter.symm with ⟨rfl, hsame | hrejected⟩ | rfl
      · rw [hsame]
        exact hunscheduled
      · rw [rejects_of_nil hrejections] at hrejected
        cases hrejected
      · exact hunscheduled
  · intro hnone
    obtain ⟨p', hp', hunscheduled, -⟩ := found_of_nothing_pending hrejections ht hp hnone
    exact ⟨p', found_eq_some hp', hunscheduled⟩

variable (topology config now) in
/-- If releases are not waited for, a pod is gone once changes of it are pending. -/
theorem gone_of_pending (hrejections : w.rejections = []) (ht : shard.byKey.get? key = some t)
    (hp : shard.found Pod w key = some p) (himmediate : shard.spec.updateStrategy = .immediate)
    (hpending : shard.podPending t (t.resizedIn (shard.afterPass topology config now w) key) p ≠ []) :
    (shard.afterPass topology config now w).fetch? Pod key = none := by
  obtain ⟨n, hafter⟩ := pod_visited topology config now ht hp
  rw [hafter, if_pos ⟨hpending, .inl himmediate⟩, Action.leaves, rejects_of_nil hrejections]
  rfl

end Pass

/-! ## Repeated passes -/

section Repeated

variable {shard : Shard} {topology : Topology} {config : PassConfig} {times : Nat → Timestamp}
variable {w : MemoryStore} {key : ObjectKey} {t : TabletSpec}

theorem rejections_repeated (n : Nat) :
    (repeated shard topology config times w n).rejections = w.rejections := by
  induction n with
  | zero => rfl
  | succ n ih => exact (shard.rejections_afterPass topology config (times n) _).trans ih

/-- The resizes that are due after the first pass are due after all later ones. -/
theorem resizedIn_repeated (ht : shard.byKey.get? key = some t) (n : Nat) :
    t.resizedIn (repeated shard topology config times w (n + 1)) key
      = t.resizedIn (repeated shard topology config times w 1) key := by
  induction n with
  | zero => rfl
  | succ n ih =>
      rw [← ih]
      exact resizedIn_second_pass topology config (times n) (times (n + 1)) _ ht

/-- Once nothing is pending of a pod that is found, nothing ever is. -/
theorem found_repeated (hrejections : w.rejections = []) (ht : shard.byKey.get? key = some t)
    {n : Nat} {p : Pod}
    (hp : shard.found Pod (repeated shard topology config times w n) key = some p)
    (hnone : shard.podPending t (t.resizedIn (repeated shard topology config times w 1) key) p = [])
    (m : Nat) :
    ∃ p', shard.found Pod (repeated shard topology config times w (n + m)) key = some p' ∧
      shard.podPending t (t.resizedIn (repeated shard topology config times w 1) key) p' = [] := by
  induction m with
  | zero => exact ⟨p, hp, hnone⟩
  | succ m ih =>
      obtain ⟨q, hq, hpending⟩ := ih
      rw [← resizedIn_repeated ht (n + m)] at hpending ⊢
      obtain ⟨p', hp', -, hpending'⟩ := found_of_nothing_pending
        ((rejections_repeated (n + m)).trans hrejections) ht hq hpending
      exact ⟨p', hp', hpending'⟩

/-- The store after so many passes holds no pod at the key, and the next pass creates one. -/
theorem created_repeated (hrejections : w.rejections = []) (ht : shard.byKey.get? key = some t)
    {n : Nat} (hnone : (repeated shard topology config times w n).fetch? Pod key = none) :
    ∃ m, shard.found Pod (repeated shard topology config times w (n + 1)) key
      = some (storedAs m true (t.newPod key)) := by
  obtain ⟨m, hcreated⟩ := pod_created topology config (times n)
    ((rejections_repeated n).trans hrejections) ht hnone
  refine ⟨m, Option.filter_eq_some_iff.2 ⟨hcreated, ?_⟩⟩
  exact isListed_of_podOrigin (podOrigin hcreated) fun p hp => by
    rw [hnone] at hp
    cases hp

/-- If the new pod of a tablet is not up to date, and releases are not waited for, then once a pass has
deleted the pod the passes after it create and delete it by turns. -/
theorem remade_for_ever (hrejections : w.rejections = []) (ht : shard.byKey.get? key = some t)
    (hgone : (repeated shard topology config times w 1).fetch? Pod key = none)
    (hnew : ¬shard.NewIsUpToDate t (repeated shard topology config times w 1) key)
    (himmediate : shard.spec.updateStrategy = .immediate) (n : Nat) :
    (repeated shard topology config times w (2 * n + 1)).fetch? Pod key = none := by
  induction n with
  | zero => exact hgone
  | succ n ih =>
      obtain ⟨m, hcreated⟩ := created_repeated hrejections ht ih
      rw [← podPending_newPod_eq_nil_iff m, ← resizedIn_repeated ht (2 * n + 2)] at hnew
      exact gone_of_pending topology config (times (2 * n + 2))
        ((rejections_repeated (2 * n + 2)).trans hrejections) ht hcreated himmediate hnew

/-- *Whether recreation settles.* If nothing is rejected and a pass deletes the pod of a desired tablet, then
the next pass creates its replacement, and the pass after that keeps it, with no changes announced, just
when what is new of the tablet is up to date. Then no later pass touches it any more either. Otherwise, if
releases are not waited for, it is deleted and created by turns for ever. -/
theorem recreation_settles_iff (shard : Shard) (topology : Topology) (config : PassConfig)
    (times : Nat → Timestamp) (w : MemoryStore) (hrejections : w.rejections = []) {key : ObjectKey}
    {t : TabletSpec} (ht : shard.byKey.get? key = some t)
    (hgone : (repeated shard topology config times w 1).fetch? Pod key = none) :
    let after := repeated shard topology config times w
    let Kept (n : Nat) := ∃ p, (after n).fetch? Pod key = some p ∧ p.metadata.scheduled? = none
    ((after 2).fetch? Pod key).isSome = true ∧
      (Kept 3 ↔ shard.NewIsUpToDate t (after 1) key) ∧
      (Kept 3 → ∀ n, 3 ≤ n → Kept n) ∧
      (¬Kept 3 → shard.spec.updateStrategy = .immediate → ∀ n,
        (after (2 * n + 1)).fetch? Pod key = none ∧
          ((after (2 * n + 2)).fetch? Pod key).isSome = true) := by
  intro after Kept
  obtain ⟨m, hcreated⟩ := created_repeated hrejections ht hgone
  have hiff : Kept 3 ↔ shard.NewIsUpToDate t (after 1) key := by
    rw [← podPending_newPod_eq_nil_iff m, ← resizedIn_repeated ht 2]
    exact unscheduled_iff ((rejections_repeated 2).trans hrejections) ht hcreated
  refine ⟨by rw [found_eq_some hcreated]; rfl, hiff, fun hkept n hn => ?_, fun hnot himmediate n => ?_⟩
  · obtain ⟨k, rfl⟩ := Nat.exists_eq_add_of_le hn
    have hnone := (podPending_newPod_eq_nil_iff m).2 (hiff.1 hkept)
    obtain ⟨p, hp, hpending⟩ := found_repeated hrejections ht hcreated hnone k
    rw [← resizedIn_repeated ht (1 + 1 + k)] at hpending
    have hunscheduled := (unscheduled_iff ((rejections_repeated (1 + 1 + k)).trans hrejections) ht
      hp).2 hpending
    have hshift : 3 + k = 1 + 1 + k + 1 := by omega
    rw [hshift]
    exact hunscheduled
  · have hodd := remade_for_ever hrejections ht hgone (fun hnew => hnot (hiff.2 hnew)) himmediate n
    obtain ⟨k, hk⟩ := created_repeated hrejections ht hodd
    exact ⟨hodd, by rw [show after (2 * n + 2) = _ from rfl, found_eq_some hk]; rfl⟩

end Repeated

/-- A volume of ten gibibytes. -/
def sampleVolume : ClaimSpec where
  resources := some { requests := some (.ofList [("storage", ⟨"10Gi"⟩)]) }

/-- A small shard that does not wait for releases, whose tablet has a data volume. -/
def sampleGrown : Shard :=
  { sample 1 with
    spec := { (sample 1).spec with
      updateStrategy := .immediate
      tabletPools := [{
        cell := "zone1"
        type := .replica
        replicas := 1
        dataVolumeClaimTemplate := some sampleVolume }] } }

/-- The claim of that tablet, which waits for its file system. -/
def sampleWaitingClaim : Claim where
  metadata := (samplePod sampleFirst .empty).metadata
  spec := some sampleVolume
  status := some { conditions := some [{ type := resizePending, status := "True" }] }

/-- A store that holds the claim next to the pod. -/
def sampleWaiting : MemoryStore :=
  match sampleStored.insert sampleWaitingClaim with
  | .ok (_, w) => w
  | .error _ => sampleStored

/-- The tablet of that shard. -/
def sampleGrownTablet : TabletSpec := (sampleGrown.byKey.get? (sampleKey sampleFirst)).getD default

/-- The store after so many passes over that shard. -/
def sampleAfter (w : MemoryStore) : Nat → MemoryStore :=
  repeated sampleGrown .sample {} (fun _ => .sample) w

/-- The size that the file system of its volume has to grow to after the first pass. -/
def sampleTarget? (w : MemoryStore) : Option Quantity :=
  (if (sampleAfter w 1).rejects .get (sampleKey sampleFirst).name then none
    else (sampleAfter w 1).fetch? Claim (sampleKey sampleFirst)).bind (·.resizeTarget? sampleGrownTablet)

/-- A pod that records no hash is made anew. If no claim waits for its file system, that is done with the
second pass. -/
theorem sample_recreated_once :
    ∃ p, (sampleAfter sampleStored 3).fetch? Pod (sampleKey sampleFirst) = some p ∧
      p.metadata.scheduled? = none := by
  have ht : sampleGrown.byKey.get? (sampleKey sampleFirst) = some sampleGrownTablet ∧
      sampleGrownTablet.annotations.get? AnnotationKey.specHash = none ∧
      sampleGrownTablet.annotations.get? AnnotationKey.observedGeneration = none := by
    decide +kernel
  have hfirst : (sampleAfter sampleStored 1).fetch? Pod (sampleKey sampleFirst) = none ∧
      sampleTarget? sampleStored = none := by
    decide +kernel
  obtain ⟨-, hsettles, -⟩ := recreation_settles_iff sampleGrown .sample {} (fun _ => .sample) sampleStored
    rfl ht.1 hfirst.1
  refine hsettles.2 ⟨fun v hv => ?_, fun v hv => ?_, fun size hdue => ?_⟩
  · exact nomatch ht.2.1.symm.trans hv
  · exact nomatch ht.2.2.symm.trans hv
  · exact nomatch hfirst.2.symm.trans (TabletSpec.resizeDue_iff.1 hdue)

/-- But as long as the claim waits, the pod is deleted and created by turns. -/
theorem sample_recreated_for_ever :
    sampleWaiting.rejections = [] ∧ ∀ n,
      (sampleAfter sampleWaiting (2 * n + 1)).fetch? Pod (sampleKey sampleFirst) = none ∧
      ((sampleAfter sampleWaiting (2 * n + 2)).fetch? Pod (sampleKey sampleFirst)).isSome = true := by
  have ht : sampleGrown.byKey.get? (sampleKey sampleFirst) = some sampleGrownTablet ∧
      sampleGrownTablet.annotations.get? AnnotationKey.filesystemResize = none := by
    decide +kernel
  have hfirst : (sampleAfter sampleWaiting 1).fetch? Pod (sampleKey sampleFirst) = none ∧
      sampleTarget? sampleWaiting = some ⟨"10Gi"⟩ := by
    decide +kernel
  have hnew : ¬sampleGrown.NewIsUpToDate sampleGrownTablet (sampleAfter sampleWaiting 1)
      (sampleKey sampleFirst) := fun hnew =>
    nomatch ht.2.symm.trans (hnew.resize _ (TabletSpec.resizeDue_iff.2 hfirst.2))
  refine ⟨rfl, fun n => ?_⟩
  have hgone := remade_for_ever rfl ht.1 hfirst.1 hnew rfl n
  obtain ⟨m, hcreated⟩ := created_repeated rfl ht.1 hgone
  exact ⟨hgone, by rw [sampleAfter, found_eq_some hcreated]; rfl⟩

end Shard

end TabletFleet
