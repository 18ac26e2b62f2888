import TabletFleet.Proofs.Pass.Entries
import TabletFleet.Proofs.Pass.Recreation
import TabletFleet.Proofs.Pass.Selection
import TabletFleet.Proofs.Text.Numeral

set_option autoImplicit false

/-! # The lowest recorded generation

A pod records the generation of its shard that it was last updated for, and the status of the shard says
how far down the recorded generations reach. -/

namespace TabletFleet

open ManagedObject (metadata mapMetadata)

/-! ## The lowest of some generations -/

/-- Once a positive generation has been seen, the lowest one is positive, and reaches as far down as it or as
the lowest one before. -/
theorem lowerGeneration_le_iff {low : Int64} (hlow : 0 ≤ low) {g? : Option Int64}
    (h : ∀ g, g? = some g → 0 < g) :
    0 ≤ lowerGeneration low g? ∧
      ∀ b, (0 < lowerGeneration low g? ∧ lowerGeneration low g? ≤ b) ↔
        (0 < low ∧ low ≤ b) ∨ ∃ g, g? = some g ∧ g ≤ b := by
  cases g? with
  | none =>
      refine ⟨hlow, fun b => ?_⟩
      simp [lowerGeneration]
  | some g =>
      have hg : 0 < g := h g rfl
      simp only [lowerGeneration, Option.some.injEq, exists_eq_left']
      simp only [Int64.le_iff_toInt_le, Int64.lt_iff_toInt_lt, ← Int64.toInt_inj,
        Int64.toInt_zero] at hlow hg ⊢
      split <;> refine ⟨by omega, fun b => ?_⟩ <;> omega

/-- Of positive generations, the lowest reaches as far down as one of them does. -/
theorem foldl_lowerGeneration_le_iff {l : List (Option Int64)} (h : ∀ g, some g ∈ l → 0 < g)
    {low : Int64} (hlow : 0 ≤ low) (b : Int64) :
    (0 < l.foldl lowerGeneration low ∧ l.foldl lowerGeneration low ≤ b) ↔
      (0 < low ∧ low ≤ b) ∨ ∃ g, some g ∈ l ∧ g ≤ b := by
  induction l generalizing low with
  | nil => simp
  | cons g? l ih =>
      have hfirst : ∀ g, g? = some g → 0 < g := fun g hg => h g (hg ▸ List.mem_cons_self)
      obtain ⟨hnext, hreaches⟩ := lowerGeneration_le_iff hlow hfirst
      rw [List.foldl_cons, ih (fun g hg => h g (List.mem_cons_of_mem _ hg)) hnext, hreaches, or_assoc]
      refine or_congr_right ?_
      rw [← exists_or]
      refine exists_congr fun g => ?_
      rw [List.mem_cons, or_and_right, eq_comm]
/-! ## Generations that are recorded -/

/-- The generation that a tablet's own annotations record. -/
def TabletSpec.ownGeneration? (t : TabletSpec) : Option Int64 :=
  (t.annotations.get? AnnotationKey.observedGeneration).bind Numeral.int64?

namespace Shard

section Generations

variable {shard : Shard} {t : TabletSpec} {key : ObjectKey}

theorem observedGeneration?_podNext (shard : Shard) (t : TabletSpec) (p : Pod) :
    (shard.podNext t p).observedGeneration? = some shard.generation := by
  have hrecorded : (shard.podNext t p).metadata.annotation? AnnotationKey.observedGeneration
      = some (toString shard.generation.toInt) :=
    (ObjectMeta.annotation?_annotate ..).trans (if_pos rfl)
  rw [Pod.observedGeneration?, hrecorded, Option.bind_some, Numeral.int64?_toString]

theorem observedGeneration?_marked {p : Pod} {f : ObjectMeta → ObjectMeta}
    (hf : f = (·.unschedule) ∨ ∃ changes, f = (·.schedule changes)) :
    (mapMetadata f (shard.podNext t p)).observedGeneration? = some shard.generation := by
  obtain ⟨changes, hmarked⟩ := shard.marked_podNext t p hf
  have hrecorded := p.metadata.annotation?_kept t.objectLabels (shard.podAnnotations t) changes
    (k := AnnotationKey.observedGeneration) ⟨by decide, by decide⟩
  rw [podAnnotations, OrdMap.get?_insert, if_pos rfl, Option.some_or] at hrecorded
  rw [hmarked, Pod.observedGeneration?]
  dsimp only
  rw [← podAnnotations] at hrecorded
  rw [hrecorded, Option.bind_some, Numeral.int64?_toString]

theorem observedGeneration?_newPod (t : TabletSpec) (key : ObjectKey) :
    (t.newPod key).observedGeneration? = t.ownGeneration? := by
  have hrecorded : (t.newPod key).metadata.annotation? AnnotationKey.observedGeneration
      = (t.annotations.insert AnnotationKey.specHash t.podSpec.hash).get?
          AnnotationKey.observedGeneration := rfl
  rw [Pod.observedGeneration?, hrecorded, OrdMap.get?_insert, if_neg (by decide),
    TabletSpec.ownGeneration?]

theorem observedGeneration?_storedAs (stamp : Stamp) (isNew : Bool) (p : Pod) :
    (storedAs stamp isNew p).observedGeneration? = p.observedGeneration? := rfl

end Generations

/-! ## Generations that are told of -/

section Told

variable {shard : Shard} {topology : Topology} {config : PassConfig} {now : Timestamp}
variable {w : MemoryStore} {key : ObjectKey}

/-- A pod that is to be made anew is told of as if it had been updated already. -/
theorem told_of_toBeRemade (h : shard.ToBeRemade now w key) :
    (shard.podTold now (shard.afterClaims now w) key).bind (·.observedGeneration?)
      = some shard.generation := by
  have hlive := shard.livePods_eq_found now w key
  rw [ToBeRemade] at h
  simp only [podTold, livePods_afterClaims, hlive, h, ObjectSet.told]
  unfold podAction at h
  cases ht : shard.byKey.get? key with
  | none =>
      rw [ht] at h
      cases h
  | some t =>
      cases hp : shard.found Pod w key with
      | none =>
          rw [ht, hp] at h
          cases h
      | some p =>
          have hgoing : ∀ p : Pod, (ObjectSet.going now p).observedGeneration? = p.observedGeneration? :=
            fun _ => rfl
          simp only [Option.map_some, Option.bind_some, podInPlace, ht]
          split
          · exact shard.observedGeneration?_podNext t p
          · rw [hgoing]
            exact shard.observedGeneration?_podNext t p

/-- All other desired pods are told of as they are found in the end. -/
theorem told_of_not_toBeRemade (topology : Topology) (config : PassConfig) (hkey : key ∈ shard.keys)
    (h : ¬shard.ToBeRemade now w key) :
    (shard.podTold now (shard.afterClaims now w) key).bind (·.observedGeneration?)
      = (shard.found Pod (shard.afterPass topology config now w) key).bind
          (·.observedGeneration?) := by
  obtain ⟨n, hafter⟩ := pod_desired now w topology config hkey
  have hlive := shard.livePods_eq_found now w key
  have hrejects : ((shard.afterClaims now w).rejects · key.name) = (w.rejects · key.name) :=
    funext fun verb => shard.rejects_afterClaims now w verb key.name
  rw [hlive] at hafter
  rw [ToBeRemade] at h
  simp only [podTold, podFailure?, Action.failureIn?, livePods_afterClaims, hlive, hrejects,
    fetch?_pod_afterClaims]
  have hcreate : ∀ object, shard.podAction now (shard.afterClaims now w) key
      (shard.found Pod w key) = .create object → shard.found Pod w key = none := by
    intro object hcreate
    obtain ⟨t, -, hnone, -⟩ := podAction_eq_create hcreate
    exact hnone
  have hupdate : ∀ object, shard.podAction now (shard.afterClaims now w) key
      (shard.found Pod w key) = .update object → (shard.found Pod w key).isSome = true := by
    intro object hupdate
    obtain ⟨t, p, f, -, hp, -⟩ := podAction_eq_update hupdate
    exact Option.isSome_iff_exists.2 ⟨p, hp⟩
  generalize shard.podAction now (shard.afterClaims now w) key (shard.found Pod w key) = a
    at h hafter hcreate hupdate ⊢
  exact ObjectSet.told_eq_found now (shard.podInPlace key) hafter h hcreate hupdate
    (fun hlisted p' hp' => isListed_of_podOrigin (podOrigin hp') hlisted) observedGeneration?_storedAs

end Told

/-! ## The lowest generation of a shard -/

section Lowest

variable (shard : Shard) (topology : Topology) (config : PassConfig) (now : Timestamp)
variable (w : MemoryStore)

/-- The generation that the pod of a desired tablet counts with after a pass: the one that it records, if it
is found then. A pod that is to be made anew counts as updated, whether it is gone by then or not. -/
def CountsWith (key : ObjectKey) (g : Int64) : Prop :=
  if shard.ToBeRemade now w key then g = shard.generation
  else (shard.found Pod (shard.afterPass topology config now w) key).bind
    (·.observedGeneration?) = some g

/-- The lowest generation that the status reports after a pass. -/
def lowestGeneration : Int64 :=
  (shard.reconcileAt topology config now w).1.status.lowestPodGeneration

theorem lowestGeneration_eq :
    shard.lowestGeneration topology config now w =
      (shard.keys.eraseDups.map fun key =>
        (shard.podTold now (shard.afterClaims now w) key).bind (·.observedGeneration?)).foldl
          lowerGeneration 0 := by
  have hnotes := shard.reported_notes topology config now w
  rw [lowestGeneration, List.foldl_map]
  generalize (shard.reconcileAt topology config now w).1 = report at hnotes
  refine (congrArg Prod.fst hnotes).trans (List.foldl_hom Prod.fst fun notes key => ?_).symm
  cases shard.podTold now (shard.afterClaims now w) key <;> rfl

variable {shard now w} {key : ObjectKey}

theorem countsWith_iff (hkey : key ∈ shard.keys) (g : Int64) :
    shard.CountsWith topology config now w key g ↔
      (shard.podTold now (shard.afterClaims now w) key).bind (·.observedGeneration?) = some g := by
  unfold CountsWith
  split
  · next hremade => rw [told_of_toBeRemade hremade, Option.some.injEq, eq_comm]
  · next hkept => rw [told_of_not_toBeRemade topology config hkey hkept]

variable {topology config}

/-- No generation is recorded, by the shard, its tablets or the stored pods, that is not positive. Tablets
record one if the annotations of their pool or of its backup location do, and their new pods have it. -/
structure PositiveGenerations (shard : Shard) (w : MemoryStore) : Prop where
  current : 0 < shard.generation
  own : ∀ t ∈ shard.tablets, ∀ g, t.ownGeneration? = some g → 0 < g
  stored : ∀ key p g, w.fetch? Pod key = some p → p.observedGeneration? = some g → 0 < g

theorem CountsWith.pos {g : Int64} (hcounts : shard.CountsWith topology config now w key g)
    (h : shard.PositiveGenerations w) (hkey : key ∈ shard.keys) : 0 < g := by
  unfold CountsWith at hcounts
  split at hcounts
  · rw [hcounts]
    exact h.current
  · obtain ⟨p', hp', hg⟩ := Option.bind_eq_some_iff.1 hcounts
    cases podOrigin (found_eq_some hp') with
    | kept _ before => exact h.stored key p' g before hg
    | created t n desired =>
        rw [observedGeneration?_storedAs, observedGeneration?_newPod] at hg
        exact h.own t (of_byKey desired).1 g hg
    | updated t p f n desired before markers =>
        rw [observedGeneration?_storedAs, observedGeneration?_marked markers] at hg
        rw [← Option.some.inj hg]
        exact h.current
    | drained p n unwanted before => exact absurd hkey unwanted

/-- The lowest generation reaches as far down as one of the pods counts. -/
theorem lowestGeneration_reaches_iff (topology : Topology) (config : PassConfig) (now : Timestamp)
    (h : shard.PositiveGenerations w) (b : Int64) :
    (0 < shard.lowestGeneration topology config now w ∧
        shard.lowestGeneration topology config now w ≤ b) ↔
      ∃ key ∈ shard.keys, ∃ g ≤ b, shard.CountsWith topology config now w key g := by
  have hpositive : ∀ g, some g ∈ shard.keys.eraseDups.map (fun key =>
      (shard.podTold now (shard.afterClaims now w) key).bind (·.observedGeneration?)) → 0 < g := by
    intro g hmem
    obtain ⟨key, hkey, htold⟩ := List.mem_map.1 hmem
    rw [List.mem_eraseDups] at hkey
    exact ((countsWith_iff topology config hkey g).2 htold).pos h hkey
  rw [lowestGeneration_eq, foldl_lowerGeneration_le_iff hpositive (Int64.le_refl 0) b]
  constructor
  · rintro (⟨hzero, -⟩ | ⟨g, hmem, hle⟩)
    · exact absurd hzero (by decide)
    · obtain ⟨key, hkey, htold⟩ := List.mem_map.1 hmem
      rw [List.mem_eraseDups] at hkey
      exact ⟨key, hkey, g, hle, (countsWith_iff topology config hkey g).2 htold⟩
  · rintro ⟨key, hkey, g, hle, hcounts⟩
    refine .inr ⟨g, List.mem_map.2 ⟨key, List.mem_eraseDups.2 hkey, ?_⟩, hle⟩
    exact (countsWith_iff topology config hkey g).1 hcounts

/-- *The low-water mark.* If all recorded generations are positive, then after a pass the lowest generation in
the status is positive and at most the generation `g` of any pod that is found for a desired tablet — except
that a pod which is still there, though it was to be made anew, counts as updated. Then the lowest
generation is at most `g` just when some pod counts with `g` or less. -/
theorem lowestGeneration_le_iff (shard : Shard) (topology : Topology) (config : PassConfig)
    (now : Timestamp) (w : MemoryStore) (h : shard.PositiveGenerations w) (hkey : key ∈ shard.keys)
    {p' : Pod} {g : Int64}
    (hp' : shard.found Pod (shard.afterPass topology config now w) key = some p')
    (hg : p'.observedGeneration? = some g) :
    let lowest := shard.lowestGeneration topology config now w
    0 < lowest ∧ (lowest ≤ g ↔ (shard.ToBeRemade now w key →
      ∃ key' ∈ shard.keys, ∃ g' ≤ g, shard.CountsWith topology config now w key' g')) := by
  intro lowest
  have hreaches := lowestGeneration_reaches_iff topology config now h
  by_cases hremade : shard.ToBeRemade now w key
  · have hcounts : shard.CountsWith topology config now w key shard.generation := by
      rw [CountsWith, if_pos hremade]
    obtain ⟨hpositive, -⟩ := (hreaches _).2 ⟨key, hkey, _, Int64.le_refl _, hcounts⟩
    exact ⟨hpositive, fun hle _ => (hreaches g).1 ⟨hpositive, hle⟩,
      fun hcounted => ((hreaches g).2 (hcounted hremade)).2⟩
  · have hcounts : shard.CountsWith topology config now w key g := by
      rw [CountsWith, if_neg hremade, hp', Option.bind_some, hg]
    obtain ⟨hpositive, hle⟩ := (hreaches g).2 ⟨key, hkey, g, Int64.le_refl g, hcounts⟩
    exact ⟨hpositive, fun _ himpossible => absurd himpossible hremade, fun _ => hle⟩

end Lowest

/-- A small shard of the second generation. -/
def sampleRevised (updateStrategy : UpdateStrategy) : Shard where
  metadata := { (sample 1).metadata with generation := some 2 }
  spec := { (sample 1).spec with updateStrategy }

/-- A pod that was updated for the first generation and is to be made anew, in a store that rejects some
calls. -/
def sampleOutdated (verb : Verb) : MemoryStore :=
  (MemoryStore.ofPods [samplePod sampleFirst (.ofList [(AnnotationKey.observedGeneration, "1")])]).reject
    verb (sampleKey sampleFirst).name

/-- The generation that the pod records after a pass. -/
def sampleRecorded (updateStrategy : UpdateStrategy) (rejected : Verb) : Option Int64 :=
  ((sampleRevised updateStrategy).found Pod
    ((sampleRevised updateStrategy).afterPass .sample {} .sample (sampleOutdated rejected))
    (sampleKey sampleFirst)).bind (·.observedGeneration?)

/-- The lowest generation that is reported after the pass. -/
def sampleLowest (updateStrategy : UpdateStrategy) (rejected : Verb) : Int64 :=
  (sampleRevised updateStrategy).lowestGeneration .sample {} .sample (sampleOutdated rejected)

theorem sample_positiveGenerations (updateStrategy : UpdateStrategy) (rejected : Verb) :
    (sampleRevised updateStrategy).PositiveGenerations (sampleOutdated rejected) where
  current := by cases updateStrategy <;> decide +kernel
  own t ht g hg := by
    have hnone : ∀ t ∈ (sampleRevised updateStrategy).tablets, t.ownGeneration? = none := by
      cases updateStrategy <;> decide +kernel
    rw [hnone t ht] at hg
    cases hg
  stored key p g hp hg := by
    have hone : ∀ e ∈ (MemoryStore.ofPods [samplePod sampleFirst (.ofList
        [(AnnotationKey.observedGeneration, "1")])]).pods.entries.toList,
        e.2.observedGeneration? = some 1 := by decide +kernel
    have hp1 := hone (key, p) (OrdMap.mem_toList.2 hp)
    rw [hg] at hp1
    rw [Option.some.inj hp1]
    decide

/-- A pod that could not be updated keeps the status at its generation. -/
theorem sample_lowest_generation :
    sampleRecorded .external .update = some 1 ∧ sampleLowest .external .update ≤ 1 := by
  have hrecorded : sampleRecorded .external .update = some 1 := by decide +kernel
  obtain ⟨p, hp, hg⟩ : ∃ p, _ ∧ _ := by
    rw [sampleRecorded] at hrecorded
    exact Option.bind_eq_some_iff.1 hrecorded
  have hkey : sampleKey sampleFirst ∈ (sampleRevised .external).keys := by decide +kernel
  obtain ⟨-, hlowest⟩ := lowestGeneration_le_iff (sampleRevised .external) .sample {} .sample
    (sampleOutdated .update) (sample_positiveGenerations .external .update) hkey hp hg
  refine ⟨hrecorded, hlowest.2 fun hremade => ?_⟩
  -- the pod waits for being released
  have hwaits : ((sampleRevised .external).found Pod (sampleOutdated .update)
      (sampleKey sampleFirst)).all (!·.metadata.released) = true := by decide +kernel
  obtain ⟨t, ht⟩ := exists_byKey hkey
  obtain ⟨q, hq, -, himmediate | hreleased⟩ := (toBeRemade_iff ht).1 hremade
  · cases himmediate
  · rw [hq, Option.all_some, hreleased] at hwaits
    cases hwaits

/-- But one that could not be deleted to be made anew does not: it records the first generation still, and
the status reports the second. -/
theorem sample_generation_overstated :
    (sampleRevised .immediate).PositiveGenerations (sampleOutdated .delete) ∧
      sampleKey sampleFirst ∈ (sampleRevised .immediate).keys ∧
      sampleRecorded .immediate .delete = some 1 ∧ sampleLowest .immediate .delete = 2 := by
  refine ⟨sample_positiveGenerations .immediate .delete, ?_⟩
  decide +kernel

/-- A small shard whose pool records a generation of its own. -/
def sampleOwnRecord (g : String) : Shard where
  metadata := (sample 1).metadata
  spec := { (sample 1).spec with
    tabletPools := (sample 1).spec.tabletPools.map fun pool =>
      { pool with annotations := .ofList [(AnnotationKey.observedGeneration, g)] } }

-- a new pod has what its pool records, and if that is 0, so is what the status reports
example : ((sampleOwnRecord "0").found Pod
      ((sampleOwnRecord "0").afterPass .sample {} .sample .sample)
      (sampleKey sampleFirst)).bind (·.observedGeneration?) = some 0 ∧
    (sampleOwnRecord "0").lowestGeneration .sample {} .sample .sample = 0 := by decide +kernel

end Shard

end TabletFleet
