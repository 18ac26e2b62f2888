import TabletFleet.Cluster.Pod
import TabletFleet.Proofs.Json.Paths

set_option autoImplicit false

/-! # Changes of pods

A pod that has been made anew differs from the old one in its annotations and its specification. Which
changes are reported follows from whether the annotations differ at all, and from the two
specifications (`Pod.changedPaths_congr`): nothing else in the pods matters, neither what the cluster
reports nor the versions. -/

namespace TabletFleet

open Json (DiffersAt differsAt_ofMap differsAt_zero entryOrNull lastValue)

/-! ## Written entries -/

/-- The entries of written metadata. -/
def ObjectMeta.entries (m : ObjectMeta) : OrdMap String Json :=
  m.extra.insertMany <| [
    ("annotations", m.annotations.map .ofStringMap),
    ("deletionTimestamp", m.deletionTimestamp.map (.str ·.text)),
    ("generation", m.generation.map (.int ·.toInt)),
    ("labels", m.labels.map .ofStringMap),
    ("name", m.name.map .str),
    ("namespace", m.ns.map .str),
    ("resourceVersion", m.resourceVersion.map .str),
    ("uid", m.uid.map .str)].filterMap fun f => f.2.map (f.1, ·)

theorem ObjectMeta.toJson_eq (m : ObjectMeta) : m.toJson = .ofMap m.entries := rfl

/-- The entries of a written pod. -/
def Pod.entries (p : Pod) : OrdMap String Json :=
  .ofList <| [
    ("apiVersion", some (.str "v1")), ("kind", some (.str "Pod")),
    ("metadata", some p.metadata.toJson), ("spec", p.spec.map (·.toJson)),
    ("status", p.status.map (·.toJson))].filterMap fun f => f.2.map (f.1, ·)

theorem Pod.toJson_eq (p : Pod) : p.toJson = .ofMap p.entries := rfl

/-! ## Differences -/

/-- Metadata with other annotations. -/
def ObjectMeta.withAnnotations (m : ObjectMeta) (annotations : StringMap) : ObjectMeta :=
  { m with annotations := some annotations }

/-- The pod with other annotations and another specification. -/
def Pod.remade (p : Pod) (annotations : StringMap) (spec : Option PodSpec) : Pod :=
  { p with metadata := p.metadata.withAnnotations annotations, spec }

theorem differsAt_withAnnotations {m : ObjectMeta} {old new : StringMap} {path : List String} :
    DiffersAt 1 (m.withAnnotations new).toJson (m.withAnnotations old).toJson path ↔
      path = ["annotations"] ∧ new ≠ old := by
  have hannotations : ∀ a,
      entryOrNull (m.withAnnotations a).entries "annotations" = .ofStringMap a := by
    intro a
    rw [entryOrNull, ObjectMeta.entries, Json.get?_insertMany_fields]
    simp [lastValue, ObjectMeta.withAnnotations]
  have hother : ∀ k, k ≠ "annotations" → entryOrNull (m.withAnnotations new).entries k
      = entryOrNull (m.withAnnotations old).entries k := by
    intro k hk
    simp only [entryOrNull, ObjectMeta.entries, Json.get?_insertMany_fields]
    simp only [lastValue, ObjectMeta.withAnnotations, List.foldl_cons, if_neg (Ne.symm hk)]
  rw [ObjectMeta.toJson_eq, ObjectMeta.toJson_eq, differsAt_ofMap]
  constructor
  · rintro ⟨k, rest, rfl, hdiffers⟩
    obtain ⟨rfl, hne⟩ := differsAt_zero.1 hdiffers
    by_cases hk : k = "annotations"
    · rw [hk, hannotations, hannotations, ne_eq, Json.unsignZeros_ofStringMap_inj] at hne
      exact ⟨by rw [hk], hne⟩
    · rw [hother k hk] at hne
      exact absurd rfl hne
  · rintro ⟨rfl, hne⟩
    refine ⟨"annotations", [], rfl, differsAt_zero.2 ⟨rfl, ?_⟩⟩
    rw [hannotations, hannotations, ne_eq, Json.unsignZeros_ofStringMap_inj]
    exact hne

theorem entryOrNull_pod (p : Pod) (k : String) :
    entryOrNull p.entries k =
      if k = "metadata" then p.metadata.toJson
      else if k = "spec" then (p.spec.map (·.toJson)).getD .null
      else (lastValue k none [
        ("apiVersion", some (.str "v1")), ("kind", some (.str "Pod")),
        ("status", p.status.map (·.toJson))]).getD .null := by
  rw [entryOrNull, Pod.entries, OrdMap.ofList, Json.get?_insertMany_fields, OrdMap.get?_empty]
  by_cases hmeta : k = "metadata"
  · simp [lastValue, hmeta]
  · by_cases hspec : k = "spec"
    · simp [lastValue, hspec]
    · simp [lastValue, hmeta, hspec, Ne.symm hmeta, Ne.symm hspec]

theorem Pod.differsAt_remade {p : Pod} {old new : StringMap} {spec : Option PodSpec}
    {path : List String} (hp : p.metadata.annotations = some old) :
    DiffersAt 1 (p.remade new spec).metadata.toJson p.metadata.toJson path ↔
      path = ["annotations"] ∧ new ≠ old := by
  have hsame : p.metadata = p.metadata.withAnnotations old := by
    rw [ObjectMeta.withAnnotations, ← hp]
  rw [hsame]
  exact differsAt_withAnnotations

/-- The changes by which pods are made anew are the same if the old annotations are kept in both cases
or in neither, and if the specifications are the same before and after. -/
theorem Pod.changedPaths_congr {p q : Pod} {old new old' new' : StringMap} {spec : Option PodSpec}
    (hp : p.metadata.annotations = some old) (hq : q.metadata.annotations = some old')
    (hspec : p.spec = q.spec) (h : new = old ↔ new' = old') :
    (p.remade new spec).toJson.changedPaths p.toJson
      = (q.remade new' spec).toJson.changedPaths q.toJson := by
  refine Json.changedPaths_congr fun path => ?_
  simp only [Pod.toJson_eq]
  refine Json.differsAt_ofMap_congr (fun k rest => ?_) path
  simp only [entryOrNull_pod]
  by_cases hk : k = "metadata"
  · rw [if_pos hk, if_pos hk, if_pos hk, if_pos hk, Pod.differsAt_remade hp,
      Pod.differsAt_remade hq, ne_eq, h, ne_eq]
  · by_cases hks : k = "spec"
    · simp only [if_neg hk, if_pos hks, hspec]
      exact Iff.rfl
    · simp only [if_neg hk, if_neg hks]
      exact iff_of_false (Json.not_differsAt_self _ _ _) (Json.not_differsAt_self _ _ _)

/-- A pod that is made anew without a change of its annotations, and so of its specification, has no
changes; any change of the annotations is one. -/
theorem Pod.changedPaths_remade_eq_nil {p : Pod} {old new : StringMap} {spec : Option PodSpec}
    (hp : p.metadata.annotations = some old) (hspec : new = old → spec = p.spec) :
    (p.remade new spec).toJson.changedPaths p.toJson = [] ↔ new = old := by
  constructor
  · intro hnil
    refine Decidable.byContradiction fun hne => ?_
    refine Json.changedPaths_eq_nil.1 hnil ["metadata", "annotations"] ?_
    rw [Pod.toJson_eq, Pod.toJson_eq]
    refine differsAt_ofMap.2 ⟨"metadata", ["annotations"], rfl, ?_⟩
    rw [entryOrNull_pod, entryOrNull_pod, if_pos rfl, if_pos rfl]
    exact (Pod.differsAt_remade hp).2 ⟨rfl, hne⟩
  · intro hsame
    have hremade : p.remade new spec = p := by
      rw [Pod.remade, ObjectMeta.withAnnotations, hspec hsame, hsame, ← hp]
    rw [hremade]
    exact Json.changedPaths_self _

end TabletFleet
