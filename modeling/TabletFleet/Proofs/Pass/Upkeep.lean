import TabletFleet.Proofs.Cluster.PodChanges
import TabletFleet.Proofs.Pass.Pods

set_option autoImplicit false

/-! # Upkeep

What a pass makes of a live desired object, as long as it does not have to be made anew: it puts the
labels and annotations of the tablet on it, and the rollout markers that its pending changes call for.
Once the result is stored there is nothing more to be done (`Claim.kept_kept`, `Shard.podKept_stored`).
For a pod this takes that its pending changes stay the same: they are announced in an annotation, and
this annotation is no change itself. -/

namespace TabletFleet

open ManagedObject (metadata mapMetadata)

/-! ## Labels and annotations -/

/-- Annotations with the rollout markers that the pending changes call for. -/
def rolloutMarked (changes : List String) (annotations : StringMap) : StringMap :=
  if changes.isEmpty then
    (annotations.erase AnnotationKey.rolloutScheduled).erase AnnotationKey.rolloutReleased
  else annotations.insert AnnotationKey.rolloutScheduled (", ".intercalate changes)

/-- An annotation that is no rollout marker. -/
def NoMarker (key : String) : Prop :=
  key ≠ AnnotationKey.rolloutScheduled ∧ key ≠ AnnotationKey.rolloutReleased

theorem get?_rolloutMarked (changes : List String) (annotations : StringMap) {key : String}
    (h : NoMarker key) : (rolloutMarked changes annotations).get? key = annotations.get? key := by
  unfold rolloutMarked
  split
  · rw [OrdMap.get?_erase, if_neg h.2, OrdMap.get?_erase, if_neg h.1]
  · rw [OrdMap.get?_insert, if_neg h.1]

/-- Annotations that are set once more, and marked once more, stay as they are. -/
theorem rolloutMarked_merge (changes : List String) (a b : StringMap) :
    rolloutMarked changes ((rolloutMarked changes (a.merge b)).merge b)
      = rolloutMarked changes (a.merge b) := by
  refine OrdMap.ext_get? fun k => ?_
  unfold rolloutMarked
  split
  · simp only [OrdMap.get?_erase, OrdMap.get?_merge]
    by_cases hr : k = AnnotationKey.rolloutReleased
    · rw [if_pos hr, if_pos hr]
    · by_cases hs : k = AnnotationKey.rolloutScheduled
      · rw [if_neg hr, if_neg hr, if_pos hs, if_pos hs]
      · simp only [if_neg hr, if_neg hs]
        cases b.get? k <;> rfl
  · simp only [OrdMap.get?_insert, OrdMap.get?_merge]
    by_cases hs : k = AnnotationKey.rolloutScheduled
    · rw [if_pos hs, if_pos hs]
    · simp only [if_neg hs]
      cases b.get? k <;> rfl

namespace ObjectMeta

/-- Metadata with the given labels and annotations set, and with the rollout markers that the pending
changes call for. -/
def kept (m : ObjectMeta) (labels annotations : StringMap) (changes : List String) : ObjectMeta :=
  { m with
    labels := some ((m.labels.getD .empty).merge labels)
    annotations := some (rolloutMarked changes ((m.annotations.getD .empty).merge annotations)) }

theorem get?_annotations (m : ObjectMeta) (k : String) :
    (m.annotations.getD .empty).get? k = m.annotation? k := by
  cases h : m.annotations with
  | none => simp [annotation?, h]
  | some a => simp [annotation?, h]

theorem get?_labels (m : ObjectMeta) (k : String) :
    (m.labels.getD .empty).get? k = m.label? k := by
  cases h : m.labels with
  | none => simp [label?, h]
  | some l => simp [label?, h]

theorem label?_kept (m : ObjectMeta) (labels annotations : StringMap) (changes : List String)
    (k : String) : (m.kept labels annotations changes).label? k = (labels.get? k).or (m.label? k) := by
  rw [label?, kept, Option.bind_some, OrdMap.get?_merge, get?_labels]

theorem annotation?_kept (m : ObjectMeta) (labels annotations : StringMap) (changes : List String)
    {k : String} (hk : NoMarker k) :
    (m.kept labels annotations changes).annotation? k
      = (annotations.get? k).or (m.annotation? k) := by
  rw [annotation?, kept, Option.bind_some, get?_rolloutMarked _ _ hk, OrdMap.get?_merge,
    get?_annotations]

theorem kept_kept (m : ObjectMeta) (labels annotations : StringMap) (changes : List String) :
    (m.kept labels annotations changes).kept labels annotations changes
      = m.kept labels annotations changes := by
  simp only [kept, Option.getD_some, OrdMap.merge_merge_self, rolloutMarked_merge]

end ObjectMeta

/-! ## Claims -/

namespace ClaimSpec

/-- A request that has grown does not grow any more. -/
theorem growTo_growTo (s : ClaimSpec) (want : Quantity) :
    (s.growTo want).growTo want = s.growTo want := by
  have hgrown : (s.growTo want).growsTo want = false := by
    by_cases h : s.growsTo want = true
    · rw [growTo, if_pos h, growsTo, requestedStorage?_requestStorage]
      dsimp only
      cases want.amount? with
      | none => rfl
      | some n => simp
    · rw [growTo, if_neg h]
      exact Bool.eq_false_iff.2 h
  rw [growTo, hgrown]
  rfl

end ClaimSpec

namespace Claim

/-- A live desired claim, brought up to date. -/
def kept (c : Claim) (t : TabletSpec) : Claim := mapMetadata (·.unschedule) (c.updateInPlace t)

theorem kept_eq (c : Claim) (t : TabletSpec) :
    c.kept t =
      { c with
        metadata := c.metadata.kept t.objectLabels t.annotations []
        spec := match t.claimTemplate.bind (·.requestedStorage?) with
          | none => c.spec
          | some want => some ((c.spec.getD {}).growTo want) } := by
  unfold kept updateInPlace
  cases t.claimTemplate.bind (·.requestedStorage?) <;> rfl

theorem kept_kept (c : Claim) (t : TabletSpec) : (c.kept t).kept t = c.kept t := by
  rw [kept_eq (c.kept t), kept_eq c]
  simp only [ObjectMeta.kept_kept]
  cases t.claimTemplate.bind (·.requestedStorage?) with
  | none => rfl
  | some want => simp only [Option.getD_some, ClaimSpec.growTo_growTo]

theorem kept_storedAs (c : Claim) (t : TabletSpec) (stamp : Stamp) (isNew : Bool) :
    (storedAs stamp isNew c).kept t = storedAs stamp isNew (c.kept t) := by
  rw [kept_eq, kept_eq]
  rfl

end Claim

/-! ## Pods -/

namespace Shard

/-- The annotations that a pass sets on a desired pod. -/
def podAnnotations (shard : Shard) (t : TabletSpec) : StringMap :=
  t.annotations.insert AnnotationKey.observedGeneration (toString shard.generation.toInt)

/-- The changes that a live desired pod has to be made anew for, if what it would be anew follows from
`anew`. -/
def podPending (shard : Shard) (t anew : TabletSpec) (p : Pod) : List String :=
  ObjectSet.pendingChanges ((shard.podNext t p).update anew) (shard.podNext t p)

/-- A live desired pod, brought up to date. -/
def podKept (shard : Shard) (t anew : TabletSpec) (p : Pod) : Pod :=
  { p with metadata :=
      p.metadata.kept t.objectLabels (shard.podAnnotations t) (shard.podPending t anew p) }

section Kept

variable {shard : Shard} {t anew : TabletSpec}

theorem podNext_eq (p : Pod) :
    shard.podNext t p =
      { p with metadata := { p.metadata with
          labels := some ((p.metadata.labels.getD .empty).merge t.objectLabels)
          annotations := some ((p.metadata.annotations.getD .empty).merge
            (shard.podAnnotations t)) } } := by
  have hinsert : ∀ (a b : StringMap) (k v : String), (a.merge b).insert k v = a.merge (b.insert k v) := by
    intro a b k v
    refine OrdMap.ext_get? fun x => ?_
    simp only [OrdMap.get?_insert, OrdMap.get?_merge]
    split <;> rfl
  rw [podAnnotations, ← hinsert]
  rfl

theorem unschedule_podNext (p : Pod) :
    mapMetadata (·.unschedule) (shard.podNext t p) =
      { p with metadata := p.metadata.kept t.objectLabels (shard.podAnnotations t) [] } := by
  rw [podNext_eq]
  rfl

theorem schedule_podNext (p : Pod) {changes : List String} (h : ¬changes.isEmpty = true) :
    mapMetadata (·.schedule (", ".intercalate changes)) (shard.podNext t p) =
      { p with metadata := p.metadata.kept t.objectLabels (shard.podAnnotations t) changes } := by
  rw [podNext_eq, ObjectMeta.kept, rolloutMarked, if_neg h]
  rfl

/-- Whatever rollout markers are put on the next state of a pod, it is the pod, brought up to date. -/
theorem marked_podNext (shard : Shard) (t : TabletSpec) (p : Pod) {f : ObjectMeta → ObjectMeta}
    (hf : f = (·.unschedule) ∨ ∃ changes, f = (·.schedule changes)) :
    ∃ changes, mapMetadata f (shard.podNext t p) =
      { p with metadata := p.metadata.kept t.objectLabels (shard.podAnnotations t) changes } := by
  rcases hf with rfl | ⟨changes, rfl⟩
  · exact ⟨[], unschedule_podNext p⟩
  · have hsome : ¬[changes].isEmpty = true := by simp
    exact ⟨[changes], schedule_podNext p hsome⟩

/-- A live desired pod goes if changes are pending and need not be waited with. Otherwise it is kept. -/
theorem updateAction_eq {now : Timestamp} {p : Pod} :
    (shard.objectSet now shard.keys).updateAction p (shard.podNext t p)
        ((shard.podNext t p).update anew)
      = if shard.podPending t anew p ≠ [] ∧
            (shard.spec.updateStrategy = .immediate ∨ p.metadata.released = true) then .delete
        else .replace p (shard.podKept t anew p) := by
  have hreleases : ((shard.objectSet now shard.keys).releaseImmediately ||
      (ManagedObject.metadata p).released) = true ↔
        shard.spec.updateStrategy = .immediate ∨ p.metadata.released = true := by
    rw [Bool.or_eq_true, objectSet, decide_eq_true_eq]
    rfl
  unfold ObjectSet.updateAction
  rw [podKept, ← podPending]
  generalize shard.podPending t anew p = changes
  by_cases hpending : changes = []
  · rw [if_pos (List.isEmpty_iff.2 hpending), if_neg fun h => h.1 hpending, hpending,
      unschedule_podNext]
  · have hsome : ¬changes.isEmpty = true := fun h => hpending (List.isEmpty_iff.1 h)
    rw [if_neg hsome, schedule_podNext p hsome]
    simp only [hreleases, ne_eq, hpending, not_false_eq_true, true_and]

/-- What a call for a live desired pod comes to, unless the pod is to be made anew. -/
theorem updateAction_eq_replace {now : Timestamp} {p : Pod}
    (hexternal : shard.spec.updateStrategy = .external) (hreleased : p.metadata.released = false) :
    (shard.objectSet now shard.keys).updateAction p (shard.podNext t p)
        ((shard.podNext t p).update anew)
      = .replace p (shard.podKept t anew p) := by
  rw [updateAction_eq, if_neg]
  rintro ⟨-, himmediate | hreleased'⟩
  · rw [hexternal] at himmediate
    cases himmediate
  · rw [hreleased] at hreleased'
    cases hreleased'

/-! ## Pending changes -/

/-- The annotations of a pod made anew. -/
def anewAnnotations (anew : TabletSpec) (annotations : StringMap) : StringMap :=
  (annotations.merge anew.annotations).insert AnnotationKey.specHash anew.podSpec.hash

/-- The specification of a pod made anew. -/
def anewSpec (anew : TabletSpec) (annotations : StringMap) (spec : Option PodSpec) :
    Option PodSpec :=
  if (annotations.merge anew.annotations).get? AnnotationKey.specHash = some anew.podSpec.hash then spec
  else some { anew.podSpec with nodeName := spec.bind (·.nodeName) }

/-- The tablet's specification, but for annotations that are no rollout markers. -/
structure Marks (t anew : TabletSpec) : Prop where
  labels : anew.objectLabels = t.objectLabels
  markers : ∀ key, ¬NoMarker key → anew.annotations.get? key = t.annotations.get? key

theorem marks_resizedIn (t : TabletSpec) (s : MemoryStore) (key : ObjectKey) :
    Marks t (t.resizedIn s key) := by
  unfold TabletSpec.resizedIn TabletSpec.markResize
  split
  · exact ⟨rfl, fun _ _ => rfl⟩
  · refine ⟨rfl, fun k hk => ?_⟩
    have hne : k ≠ AnnotationKey.filesystemResize := by
      rintro rfl
      exact hk ⟨by decide, by decide⟩
    rw [OrdMap.get?_insert, if_neg hne]

theorem update_eq_remade {p : Pod} {labels annotations : StringMap}
    (hlabels : p.metadata.labels = some (labels.merge anew.objectLabels))
    (hannotations : p.metadata.annotations = some annotations) :
    p.update anew = p.remade (anewAnnotations anew annotations) (anewSpec anew annotations p.spec) := by
  obtain ⟨m, spec, status⟩ := p
  obtain ⟨name, ns, l, a, uid, version, generation, deletion, extra⟩ := m
  obtain rfl : l = _ := hlabels
  obtain rfl : a = _ := hannotations
  unfold Pod.update Pod.updateInPlace Pod.remade anewAnnotations anewSpec
  simp only [ObjectMeta.mergeLabels, ObjectMeta.mergeAnnotations, ObjectMeta.annotation?,
    ObjectMeta.annotate, ObjectMeta.withAnnotations, Option.getD_some, Option.bind_some,
    OrdMap.merge_merge_self]
  split
  · next hhash =>
      -- the hash is on the pod already, so setting it once more changes nothing
      have hsame : (annotations.merge anew.annotations).insert AnnotationKey.specHash
          anew.podSpec.hash = annotations.merge anew.annotations := by
        refine OrdMap.ext_get? fun k => ?_
        rw [OrdMap.get?_insert]
        split
        · next hk => rw [hk, hhash]
        · rfl
      rw [hsame]
  · rfl

/-- Whether making a pod anew changes its annotations does not depend on its rollout markers. -/
theorem anewAnnotations_eq_iff (hmarks : Marks t anew) (a : StringMap) :
    anewAnnotations anew (a.merge (shard.podAnnotations t)) = a.merge (shard.podAnnotations t) ↔
      ∀ k, NoMarker k → (anewAnnotations anew (a.merge (shard.podAnnotations t))).get? k
        = (a.merge (shard.podAnnotations t)).get? k := by
  refine ⟨fun h k _ => by rw [h], fun h => OrdMap.ext_get? fun k => ?_⟩
  by_cases hk : NoMarker k
  · exact h k hk
  · -- a rollout marker of the tablet's own is on the pod already, and others are kept
    have hne : k ≠ AnnotationKey.specHash ∧ k ≠ AnnotationKey.observedGeneration := by
      refine ⟨?_, ?_⟩ <;> rintro rfl <;> exact hk ⟨by decide, by decide⟩
    rw [anewAnnotations, OrdMap.get?_insert, if_neg hne.1, OrdMap.get?_merge, OrdMap.get?_merge,
      hmarks.markers k hk, podAnnotations, OrdMap.get?_insert, if_neg hne.2]
    cases t.annotations.get? k <;> rfl

/-- The annotations of a desired pod before its rollout markers are set. -/
def nextAnnotations (shard : Shard) (t : TabletSpec) (p : Pod) : StringMap :=
  (p.metadata.annotations.getD .empty).merge (shard.podAnnotations t)

theorem get?_nextAnnotations (p : Pod) (k : String) :
    (shard.nextAnnotations t p).get? k
      = ((shard.podAnnotations t).get? k).or (p.metadata.annotation? k) := by
  rw [nextAnnotations, OrdMap.get?_merge, ObjectMeta.get?_annotations]

theorem annotations_podNext (p : Pod) :
    (shard.podNext t p).metadata.annotations = some (shard.nextAnnotations t p) := by
  rw [podNext_eq]
  rfl

theorem podPending_eq (hmarks : Marks t anew) (p : Pod) :
    shard.podPending t anew p =
      ((shard.podNext t p).remade (anewAnnotations anew (shard.nextAnnotations t p))
        (anewSpec anew (shard.nextAnnotations t p) p.spec)).toJson.changedPaths
          (shard.podNext t p).toJson := by
  have hlabels : (shard.podNext t p).metadata.labels
      = some ((p.metadata.labels.getD .empty).merge anew.objectLabels) := by
    rw [podNext_eq, hmarks.labels]
  rw [podPending, update_eq_remade hlabels (annotations_podNext p)]
  rfl

/-- The pending changes follow from the specification of a pod and from its annotations, without the
rollout markers. -/
theorem podPending_congr (hmarks : Marks t anew) {p q : Pod} (hspec : q.spec = p.spec)
    (hannotations : ∀ k, NoMarker k →
      (shard.nextAnnotations t q).get? k = (shard.nextAnnotations t p).get? k) :
    shard.podPending t anew q = shard.podPending t anew p := by
  have hanew : ∀ k, NoMarker k → (anewAnnotations anew (shard.nextAnnotations t q)).get? k
      = (anewAnnotations anew (shard.nextAnnotations t p)).get? k := by
    intro k hk
    simp only [anewAnnotations, OrdMap.get?_insert, OrdMap.get?_merge, hannotations k hk]
  have hspecs : anewSpec anew (shard.nextAnnotations t q) q.spec
      = anewSpec anew (shard.nextAnnotations t p) p.spec := by
    have hhash : NoMarker AnnotationKey.specHash := ⟨by decide, by decide⟩
    simp only [anewSpec, OrdMap.get?_merge, hannotations _ hhash, hspec]
  rw [podPending_eq hmarks, podPending_eq hmarks, hspecs]
  refine Pod.changedPaths_congr (annotations_podNext q) (annotations_podNext p) hspec ?_
  unfold nextAnnotations at hannotations hanew ⊢
  rw [anewAnnotations_eq_iff hmarks, anewAnnotations_eq_iff hmarks]
  refine forall_congr' fun k => forall_congr' fun hk => ?_
  rw [hanew k hk, hannotations k hk]

theorem annotations_storedAs (stamp : Stamp) (isNew : Bool) (p : Pod) :
    (storedAs stamp isNew p).metadata.annotations = p.metadata.annotations := rfl

theorem podPending_stored (hmarks : Marks t anew) (p : Pod) (stamp : Stamp) (isNew : Bool) :
    shard.podPending t anew (storedAs stamp isNew (shard.podKept t anew p))
      = shard.podPending t anew p := by
  have hspec : (storedAs stamp isNew (shard.podKept t anew p)).spec = p.spec := rfl
  refine podPending_congr hmarks hspec fun k hk => ?_
  rw [nextAnnotations, annotations_storedAs, podKept]
  generalize shard.podPending t anew p = changes
  rw [ObjectMeta.kept, Option.getD_some, OrdMap.get?_merge, get?_rolloutMarked _ _ hk,
    nextAnnotations, OrdMap.get?_merge]
  cases (shard.podAnnotations t).get? k <;> rfl

/-- A desired pod that was brought up to date and stored is up to date. -/
theorem podKept_stored (hmarks : Marks t anew) (p : Pod) (stamp : Stamp) (isNew : Bool) :
    shard.podKept t anew (storedAs stamp isNew (shard.podKept t anew p))
      = storedAs stamp isNew (shard.podKept t anew p) := by
  have hkept := p.metadata.kept_kept t.objectLabels (shard.podAnnotations t)
    (shard.podPending t anew p)
  rw [podKept, podPending_stored hmarks]
  exact congrArg (fun m => storedAs stamp isNew ({ p with metadata := m } : Pod)) hkept

end Kept

end Shard

end TabletFleet
