import TabletFleet.Proofs.OrdMap
import TabletFleet.Tablet.Objects

set_option autoImplicit false

/-! # Updates of pods settle at once

A tablet's specification is brought onto a live pod in two ways, with and without the changes that need a
restart. Neither finds anything to do after itself, nor has the weaker one an effect on what the stronger
one does afterwards, and a new pod needs neither (`Pod.updates_settle`).

The annotation with the hash of the desired specification is what makes this more than merging maps: it
decides whether the specification is replaced, and the user's annotations may define it too. They are put
on first, so it is they that decide (`Pod.RecordsSpecOf`); afterwards the hash is on the pod in any case
(`Pod.metadata_update`). -/

namespace TabletFleet

/-! ## Metadata -/

namespace ObjectMeta

section Merging

variable (m : ObjectMeta) {labels annotations : StringMap} {key value : String}

theorem mergeLabels_mergeLabels :
    (m.mergeLabels labels).mergeLabels labels = m.mergeLabels labels := by
  simp only [mergeLabels, Option.getD_some, OrdMap.merge_merge_self]

theorem mergeAnnotations_mergeAnnotations :
    (m.mergeAnnotations annotations).mergeAnnotations annotations
      = m.mergeAnnotations annotations := by
  simp only [mergeAnnotations, Option.getD_some, OrdMap.merge_merge_self]

/-- Labels and annotations are put on independently. -/
theorem mergeLabels_mergeAnnotations :
    (m.mergeAnnotations annotations).mergeLabels labels
      = (m.mergeLabels labels).mergeAnnotations annotations := rfl

theorem mergeLabels_annotate :
    (m.annotate key value).mergeLabels labels = (m.mergeLabels labels).annotate key value := rfl

theorem annotation?_mergeAnnotations :
    (m.mergeAnnotations annotations).annotation? key
      = (annotations.get? key).or (m.annotation? key) := by
  rw [annotation?, mergeAnnotations, Option.bind_some, OrdMap.get?_merge, annotation?]
  cases m.annotations <;> rfl

/-- What was annotated last is not lost when the same is done once more, whatever else is put on in
between. -/
theorem annotate_mergeAnnotations_annotate :
    (((m.mergeAnnotations annotations).annotate key value).mergeAnnotations annotations).annotate
        key value
      = (m.mergeAnnotations annotations).annotate key value := by
  have hsame : ∀ own : StringMap,
      (((own.merge annotations).insert key value).merge annotations).insert key value
        = (own.merge annotations).insert key value := by
    intro own
    refine OrdMap.ext_get? fun k => ?_
    simp only [OrdMap.get?_insert, OrdMap.get?_merge]
    split
    · rfl
    · cases annotations.get? k <;> rfl
  simp only [annotate, mergeAnnotations, Option.getD_some, hsame]

/-- Annotating with what is there changes nothing. -/
theorem annotate_eq_self {m : ObjectMeta} (h : m.annotation? key = some value) :
    m.annotate key value = m := by
  obtain ⟨own, hown, hget⟩ := Option.bind_eq_some_iff.1 h
  have hsame : own.insert key value = own := by
    refine OrdMap.ext_get? fun k => ?_
    rw [OrdMap.get?_insert]
    split
    · next hk => rw [hk, hget]
    · rfl
  rw [annotate, hown, Option.getD_some, hsame, ← hown]

end Merging

/-- Metadata that has everything of a tablet on it, the hash of its pod's specification last. -/
def updated (m : ObjectMeta) (t : TabletSpec) : ObjectMeta :=
  ((m.mergeLabels t.objectLabels).mergeAnnotations t.annotations).annotate
    AnnotationKey.specHash t.podSpec.hash

theorem updated_updated (m : ObjectMeta) (t : TabletSpec) :
    (m.updated t).updated t = m.updated t := by
  simp only [updated, mergeLabels_annotate, mergeLabels_mergeAnnotations, mergeLabels_mergeLabels,
    annotate_mergeAnnotations_annotate]

end ObjectMeta

/-! ## Pods -/

namespace Pod

variable (p : Pod) (t : TabletSpec)

theorem updateInPlace_updateInPlace :
    (p.updateInPlace t).updateInPlace t = p.updateInPlace t := by
  simp only [updateInPlace, ObjectMeta.mergeLabels_mergeAnnotations,
    ObjectMeta.mergeLabels_mergeLabels, ObjectMeta.mergeAnnotations_mergeAnnotations]

/-- Bringing a pod up to date starts with what can be done in place. -/
theorem update_updateInPlace : (p.updateInPlace t).update t = p.update t := by
  unfold update
  rw [updateInPlace_updateInPlace]

/-- The pod records that it has the tablet's specification. What the tablet's annotations say of that
counts for more than what the pod says. -/
def RecordsSpecOf : Prop :=
  (t.annotations.get? AnnotationKey.specHash).or (p.metadata.annotation? AnnotationKey.specHash)
    = some t.podSpec.hash

instance : Decidable (p.RecordsSpecOf t) := inferInstanceAs (Decidable (_ = _))

variable {p t}

theorem annotation?_updateInPlace (key : String) :
    (p.updateInPlace t).metadata.annotation? key
      = (t.annotations.get? key).or (p.metadata.annotation? key) :=
  (p.metadata.mergeLabels t.objectLabels).annotation?_mergeAnnotations

theorem update_of_records (h : p.RecordsSpecOf t) : p.update t = p.updateInPlace t :=
  if_pos ((annotation?_updateInPlace _).trans h)

theorem update_of_not_records (h : ¬ p.RecordsSpecOf t) :
    p.update t =
      { metadata := p.metadata.updated t
        spec := some { t.podSpec with nodeName := p.spec.bind (·.nodeName) }
        status := p.status } :=
  if_neg fun hhash => h ((annotation?_updateInPlace _).symm.trans hhash)

variable (p t)

/-- The hash is recorded whether or not the specification is replaced. -/
theorem metadata_update : (p.update t).metadata = p.metadata.updated t := by
  by_cases h : p.RecordsSpecOf t
  · rw [update_of_records h]
    exact (ObjectMeta.annotate_eq_self ((annotation?_updateInPlace _).trans h)).symm
  · rw [update_of_not_records h]

theorem spec_update_eq :
    (p.update t).spec =
      if p.RecordsSpecOf t then p.spec
      else some { t.podSpec with nodeName := p.spec.bind (·.nodeName) } := by
  split
  · next h =>
      rw [update_of_records h]
      rfl
  · next h => rw [update_of_not_records h]

variable {p t}

/-- A pod that has been brought up to date can record otherwise only because the tablet's annotations
say so, and they did before. -/
theorem RecordsSpecOf.update (h : p.RecordsSpecOf t) : (p.update t).RecordsSpecOf t := by
  unfold RecordsSpecOf at h ⊢
  cases hget : t.annotations.get? AnnotationKey.specHash with
  | none =>
      rw [Option.none_or, metadata_update, ObjectMeta.updated, ObjectMeta.annotation?_annotate,
        if_pos rfl]
  | some own => rwa [hget] at h

/-- The pod is as bringing it up to date leaves it: its metadata is, and its specification is the
tablet's unless it records that it has it. -/
theorem update_eq_self (hmetadata : p.metadata.updated t = p.metadata)
    (hspec : ¬ p.RecordsSpecOf t →
      p.spec = some { t.podSpec with nodeName := p.spec.bind (·.nodeName) }) :
    p.update t = p := by
  by_cases h : p.RecordsSpecOf t
  · have hinPlace : (p.updateInPlace t).metadata = p.metadata := by
      rw [← update_of_records h, metadata_update, hmetadata]
    calc
      p.update t = { p with metadata := (p.updateInPlace t).metadata } := update_of_records h
      _ = p := by rw [hinPlace]
  · rw [update_of_not_records h, hmetadata, ← hspec h]

variable (p t) in
theorem update_update : (p.update t).update t = p.update t := by
  refine update_eq_self ?_ fun h => ?_
  · rw [metadata_update, ObjectMeta.updated_updated]
  · have hbefore : ¬ p.RecordsSpecOf t := fun hrecords => h hrecords.update
    rw [update_of_not_records hbefore]
    rfl

end Pod

/-- A new pod is up to date. -/
theorem TabletSpec.update_newPod (t : TabletSpec) (key : ObjectKey) :
    (t.newPod key).update t = t.newPod key := by
  have hmetadata : (t.newPod key).metadata
      = ObjectMeta.updated { name := some key.name, ns := some key.ns } t := by
    have hblank : ∀ own : StringMap, OrdMap.empty.merge own = own := OrdMap.ofList_toList
    simp only [ObjectMeta.updated, ObjectMeta.mergeLabels, ObjectMeta.mergeAnnotations,
      ObjectMeta.annotate, Option.getD_none, Option.getD_some, hblank]
    rfl
  refine Pod.update_eq_self ?_ fun _ => rfl
  rw [hmetadata, ObjectMeta.updated_updated]

/-- **Updates of pods settle at once.** Bringing a pod up to date in place, or altogether, changes nothing
more when it is done again; what was done in place before has no effect on the rest; and a new pod is up
to date. The specification is left as it is if the pod records that it has the tablet's. Otherwise it is
replaced by the tablet's as a whole, with only the node kept that the pod runs on. -/
theorem Pod.updates_settle (t : TabletSpec) :
    (∀ p : Pod, (p.updateInPlace t).updateInPlace t = p.updateInPlace t) ∧
    (∀ p : Pod, (p.update t).update t = p.update t) ∧
    (∀ p : Pod, (p.updateInPlace t).update t = p.update t) ∧
    (∀ key, (t.newPod key).update t = t.newPod key) ∧
    ∀ p : Pod, (p.update t).spec =
      if p.RecordsSpecOf t then p.spec
      else some { t.podSpec with nodeName := p.spec.bind (·.nodeName) } :=
  ⟨fun p => p.updateInPlace_updateInPlace t, fun p => p.update_update t,
    fun p => p.update_updateInPlace t, t.update_newPod, fun p => p.spec_update_eq t⟩

end TabletFleet
