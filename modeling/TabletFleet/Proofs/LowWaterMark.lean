import Mathlib.Data.List.DropRight
import TabletFleet.Proofs.Pass.Entries
import TabletFleet.Proofs.Pass.Outcome

set_option autoImplicit false

/-! # The lowest generation of pods that are told of one after another

The status is told of the desired pods one by one, and keeps the lowest generation that they record. Zero
stands for no generation, and yet a pod may record it. Such a pod makes the status forget all pods before
it, unless one of them has recorded a negative generation. So the result depends on the order in which the
pods come, and `reportedOf_eq` says how: what counts is what has been recorded since the last zero. -/

namespace TabletFleet

/-! ## Generations one after another -/

/-- The lowest of some generations; zero if there are none. -/
def lowestOf (gs : List Int64) : Int64 := gs.min?.getD 0

/-- The generations that were seen after the last zero. -/
def sinceZero (gs : List Int64) : List Int64 := gs.rtakeWhile (· ≠ 0)

/-- What is reported once some generations have been seen, one after another. -/
def reportedOf (gs : List Int64) : Int64 := gs.foldl (fun low g => lowerGeneration low (some g)) 0

theorem lowestOf_eq_iff {gs : List Int64} (h : gs ≠ []) {low : Int64} :
    lowestOf gs = low ↔ low ∈ gs ∧ ∀ g ∈ gs, low ≤ g := by
  rw [← List.min?_eq_some_iff, lowestOf]
  cases hmin : gs.min? with
  | none => exact absurd (List.min?_eq_none_iff.1 hmin) h
  | some g => simp

theorem lowestOf_mem {gs : List Int64} (h : gs ≠ []) : lowestOf gs ∈ gs :=
  ((lowestOf_eq_iff h).1 rfl).1

theorem lowestOf_le {gs : List Int64} {g : Int64} (h : g ∈ gs) : lowestOf gs ≤ g :=
  ((lowestOf_eq_iff (List.ne_nil_of_mem h)).1 rfl).2 g h

theorem lowestOf_perm {gs gs' : List Int64} (h : gs'.Perm gs) : lowestOf gs' = lowestOf gs := by
  by_cases hnil : gs = []
  · rw [hnil] at h ⊢
    rw [h.eq_nil]
  · have hnil' : gs' ≠ [] := fun hempty => hnil (hempty ▸ h).nil_eq.symm
    refine (lowestOf_eq_iff hnil').2 ⟨h.mem_iff.2 (lowestOf_mem hnil), fun g hg => ?_⟩
    exact lowestOf_le (h.mem_iff.1 hg)

/-- One more generation lowers the lowest one, or leaves it. -/
theorem lowestOf_concat {gs : List Int64} (h : gs ≠ []) (g : Int64) :
    lowestOf (gs ++ [g]) = if g < lowestOf gs then g else lowestOf gs := by
  have hle : ∀ g' ∈ gs, lowestOf gs ≤ g' := fun _ => lowestOf_le
  rw [lowestOf_eq_iff (by simp)]
  simp only [List.mem_append, List.mem_singleton]
  split
  · next hlt =>
      refine ⟨.inr rfl, fun g' hg' => ?_⟩
      rcases hg' with hg' | rfl
      · exact Int64.le_trans (Int64.le_of_lt hlt) (hle g' hg')
      · exact Int64.le_refl _
  · next hge =>
      refine ⟨.inl (lowestOf_mem h), fun g' hg' => ?_⟩
      rcases hg' with hg' | rfl
      · exact hle g' hg'
      · exact Int64.not_lt.1 hge

theorem sinceZero_concat (gs : List Int64) (g : Int64) :
    sinceZero (gs ++ [g]) = if g = 0 then [] else sinceZero gs ++ [g] := by
  rw [sinceZero, List.rtakeWhile_concat]
  by_cases hg : g = 0 <;> simp [hg, sinceZero]

theorem ne_zero_of_mem_sinceZero {gs : List Int64} {g : Int64} (h : g ∈ sinceZero gs) : g ≠ 0 := by
  simpa using List.mem_rtakeWhile_imp h

theorem sinceZero_eq_self {gs : List Int64} (h : 0 ∉ gs) : sinceZero gs = gs := by
  refine List.rtakeWhile_eq_self_iff.2 fun g hg => ?_
  simpa using ne_of_mem_of_not_mem hg h

theorem sinceZero_eq_nil_iff {gs : List Int64} : sinceZero gs = [] ↔ gs = [] ∨ gs.getLast? = some 0 := by
  induction gs using List.reverseRecOn with
  | nil => simp [sinceZero]
  | append_singleton gs g _ =>
      rw [sinceZero_concat, List.getLast?_concat]
      by_cases hg : g = 0 <;> simp [hg]

theorem reportedOf_concat (gs : List Int64) (g : Int64) :
    reportedOf (gs ++ [g]) = if reportedOf gs = 0 ∨ g < reportedOf gs then g else reportedOf gs := by
  rw [reportedOf, List.foldl_append]
  rfl

theorem reportedOf_neg_iff {gs : List Int64} : reportedOf gs < 0 ↔ ∃ g ∈ gs, g < 0 := by
  induction gs using List.reverseRecOn with
  | nil => simp [reportedOf]
  | append_singleton gs g ih =>
      rw [reportedOf_concat]
      simp only [List.mem_append, List.mem_singleton, or_and_right, exists_or, exists_eq_left, ← ih]
      simp only [Int64.lt_iff_toInt_lt, ← Int64.toInt_inj, Int64.toInt_zero]
      split <;> omega

/-- A negative generation is not forgotten, and then none is forgotten that is lower still. -/
theorem reportedOf_of_negative {gs : List Int64} (h : ∃ g ∈ gs, g < 0) :
    reportedOf gs = lowestOf gs := by
  induction gs using List.reverseRecOn with
  | nil => simp at h
  | append_singleton gs g ih =>
      rw [reportedOf_concat]
      by_cases hbefore : ∃ g ∈ gs, g < 0
      · have hnil : gs ≠ [] := fun hnil => by simp [hnil] at hbefore
        have hneg : reportedOf gs < 0 := reportedOf_neg_iff.2 hbefore
        have hzero : reportedOf gs ≠ 0 := fun hzero => absurd (hzero ▸ hneg) (by decide)
        rw [lowestOf_concat hnil, ← ih hbefore]
        simp only [hzero, false_or]
      · -- it is the first negative one, and so it is below all before it
        have hg : g < 0 := by
          obtain ⟨g', hmem, hneg⟩ := h
          rcases List.mem_append.1 hmem with hmem | hmem
          · exact absurd ⟨g', hmem, hneg⟩ hbefore
          · exact List.mem_singleton.1 hmem ▸ hneg
        have hlow : ¬reportedOf gs < 0 := fun hneg => hbefore (reportedOf_neg_iff.1 hneg)
        have hfirst : reportedOf gs = 0 ∨ g < reportedOf gs := by
          simp only [Int64.lt_iff_toInt_lt, ← Int64.toInt_inj, Int64.toInt_zero] at hg hlow ⊢
          omega
        rw [if_pos hfirst, eq_comm, lowestOf_eq_iff (by simp)]
        refine ⟨by simp, fun g' hmem => ?_⟩
        rcases List.mem_append.1 hmem with hmem | hmem
        · have hpos : ¬g' < 0 := fun hneg => hbefore ⟨g', hmem, hneg⟩
          exact Int64.le_trans (Int64.le_of_lt hg) (Int64.not_lt.1 hpos)
        · rw [List.mem_singleton.1 hmem]
          exact Int64.le_refl _

/-- Of generations that are not negative, those before a zero are forgotten. -/
theorem reportedOf_of_nonnegative {gs : List Int64} (h : ∀ g ∈ gs, 0 ≤ g) :
    reportedOf gs = lowestOf (sinceZero gs) := by
  induction gs using List.reverseRecOn with
  | nil => rfl
  | append_singleton gs g ih =>
      have hbefore : ∀ g ∈ gs, 0 ≤ g := fun g hg => h g (List.mem_append_left _ hg)
      have hg : 0 ≤ g := h g (by simp)
      rw [reportedOf_concat, sinceZero_concat, ih hbefore]
      by_cases hzero : g = 0
      · have hlow : ¬lowestOf (sinceZero gs) < 0 := by
          rw [← ih hbefore, reportedOf_neg_iff]
          rintro ⟨g', hmem, hneg⟩
          exact absurd hneg (Int64.not_lt.2 (hbefore g' hmem))
        rw [if_pos hzero, hzero]
        show _ = (0 : Int64)
        split
        · rfl
        · next hrest =>
            simp only [Int64.lt_iff_toInt_lt, ← Int64.toInt_inj, Int64.toInt_zero] at hlow hrest ⊢
            omega
      · rw [if_neg hzero]
        by_cases hnil : sinceZero gs = []
        · rw [hnil]
          rfl
        · have hne : lowestOf (sinceZero gs) ≠ 0 := ne_zero_of_mem_sinceZero (lowestOf_mem hnil)
          rw [lowestOf_concat hnil]
          simp only [hne, false_or]

/-- What is reported of any generations. -/
theorem reportedOf_eq (gs : List Int64) :
    reportedOf gs = lowestOf (if ∃ g ∈ gs, g < 0 then gs else sinceZero gs) := by
  split
  · next hneg => exact reportedOf_of_negative hneg
  · next hneg =>
      exact reportedOf_of_nonnegative fun g hg => Int64.not_lt.1 fun hlt => hneg ⟨g, hg, hlt⟩

theorem lowestOf_sinceZero_eq_zero_iff {gs : List Int64} :
    lowestOf (sinceZero gs) = 0 ↔ gs = [] ∨ gs.getLast? = some 0 := by
  rw [← sinceZero_eq_nil_iff]
  constructor
  · intro h
    by_contra hnil
    exact ne_zero_of_mem_sinceZero (lowestOf_mem hnil) h
  · intro h
    rw [h]
    rfl

/-- The lowest generation is reported, unless a zero has been seen which is the lowest and not the last. -/
theorem reportedOf_eq_lowestOf_iff (gs : List Int64) :
    reportedOf gs = lowestOf gs ↔ (0 ∈ gs → (∃ g ∈ gs, g < 0) ∨ gs.getLast? = some 0) := by
  rw [reportedOf_eq]
  by_cases hneg : ∃ g ∈ gs, g < 0
  · simp [hneg]
  by_cases hzero : 0 ∈ gs
  · have hlowest : lowestOf gs = 0 := by
      refine (lowestOf_eq_iff (List.ne_nil_of_mem hzero)).2 ⟨hzero, fun g hg => ?_⟩
      exact Int64.not_lt.1 fun hlt => hneg ⟨g, hg, hlt⟩
    rw [if_neg hneg, hlowest, lowestOf_sinceZero_eq_zero_iff]
    simp only [List.ne_nil_of_mem hzero, hneg, hzero, false_or, true_imp_iff]
  · rw [if_neg hneg, sinceZero_eq_self hzero]
    exact iff_of_true rfl fun h => absurd h hzero

/-! ## Pods in any order -/

/-- The generations that some pods record, as far as they are well formed. -/
def recordedBy (told : List (ObjectKey × Pod)) : List Int64 :=
  told.filterMap (·.2.observedGeneration?)

theorem recordedBy_perm {told told' : List (ObjectKey × Pod)} (h : told'.Perm told) :
    (recordedBy told').Perm (recordedBy told) :=
  h.filterMap _

/-- No zero among the generations can make the status forget another one. -/
def NothingForgotten (gs : List Int64) : Prop := 0 ∈ gs → (∃ g ∈ gs, g < 0) ∨ ∀ g ∈ gs, g = 0

theorem NothingForgotten.reportedOf_eq {gs : List Int64} (h : NothingForgotten gs) :
    reportedOf gs = lowestOf gs := by
  refine (reportedOf_eq_lowestOf_iff gs).2 fun hzero => (h hzero).imp_right fun hall => ?_
  have hnil := List.ne_nil_of_mem hzero
  rw [List.getLast?_eq_some_getLast hnil, hall _ (List.getLast_mem hnil)]

theorem NothingForgotten.perm {gs gs' : List Int64} (h : NothingForgotten gs) (hperm : gs'.Perm gs) :
    NothingForgotten gs' := by
  simpa only [NothingForgotten, hperm.mem_iff] using h

/-- Every pod may be the last that the status is told of. -/
theorem exists_perm_last {told : List (ObjectKey × Pod)} {g : Int64} (h : g ∈ recordedBy told) :
    ∃ told', told'.Perm told ∧ (recordedBy told').getLast? = some g := by
  obtain ⟨e, he, hg⟩ := List.mem_filterMap.1 h
  obtain ⟨before, after, rfl⟩ := List.append_of_mem he
  refine ⟨before ++ after ++ [e], (List.perm_append_singleton ..).trans List.perm_middle.symm, ?_⟩
  have hlast : recordedBy [e] = [g] := by simp [recordedBy, hg]
  rw [recordedBy, List.filterMap_append, ← recordedBy, ← recordedBy, hlast, List.getLast?_concat]

/-- The order of the pods does not show just when nothing can be forgotten. -/
theorem reportedOf_perm_iff (told : List (ObjectKey × Pod)) :
    (∀ told', told'.Perm told → reportedOf (recordedBy told') = reportedOf (recordedBy told)) ↔
      NothingForgotten (recordedBy told) := by
  constructor
  · intro hsame hzero
    by_contra hforgets
    rw [not_or] at hforgets
    obtain ⟨hneg, hother⟩ := hforgets
    -- with a zero at the end the status reports zero, with another generation there it does not
    have hends : ∀ told', told'.Perm told →
        (reportedOf (recordedBy told) = 0 ↔ (recordedBy told').getLast? = some 0) := by
      intro told' hperm
      have hrecorded := recordedBy_perm hperm
      have hneg' : ¬∃ g ∈ recordedBy told', g < 0 :=
        fun ⟨g, hg, hlt⟩ => hneg ⟨g, hrecorded.mem_iff.1 hg, hlt⟩
      rw [← hsame told' hperm, reportedOf_eq, if_neg hneg', lowestOf_sinceZero_eq_zero_iff]
      exact or_iff_right (List.ne_nil_of_mem (hrecorded.mem_iff.2 hzero))
    obtain ⟨g, hg, hne⟩ : ∃ g ∈ recordedBy told, g ≠ 0 := by simpa using hother
    obtain ⟨told₀, hperm₀, hlast₀⟩ := exists_perm_last hzero
    obtain ⟨told₁, hperm₁, hlast₁⟩ := exists_perm_last hg
    have hlast : some g = some 0 := hlast₁ ▸ (hends told₁ hperm₁).1 ((hends told₀ hperm₀).2 hlast₀)
    exact hne (Option.some.inj hlast)
  · intro h told' hperm
    have hrecorded := recordedBy_perm hperm
    rw [h.reportedOf_eq, (h.perm hrecorded).reportedOf_eq]
    exact lowestOf_perm hrecorded

/-! ## The status of a pass -/

/-- Tell the status of a pass of the pods of desired tablets, one after another. -/
def tellPods {σ : Type} (input : PassInput σ) (told : List (ObjectKey × Pod)) :
    StateM (PassState σ) PUnit :=
  told.forM fun e => (podStrategy input).status e.1 e.2

/-- The lowest generation that the status reports once it has been told of some pods. -/
def lowestAfter {σ : Type} (input : PassInput σ) (told : List (ObjectKey × Pod)) (s : PassState σ) :
    Int64 :=
  (tellPods input told s).2.status.lowestPodGeneration

section Told

variable {σ : Type}

theorem lowestPodGeneration_observePod (s : PassState σ) (key : ObjectKey) (p : Pod) (now : Timestamp) :
    (s.observePod key p now).status.lowestPodGeneration
      = lowerGeneration s.status.lowestPodGeneration p.observedGeneration? := by
  have hentry : (s.modifyTablet key (·.observePod p now)).status.lowestPodGeneration
      = s.status.lowestPodGeneration := by
    unfold PassState.modifyTablet
    split <;> rfl
  rw [← hentry]
  unfold PassState.observePod
  generalize s.modifyTablet key (·.observePod p now) = t
  cases p.observedGeneration? with
  | none =>
      simp only [lowerGeneration]
      split <;> rfl
  | some g =>
      dsimp only
      split <;> exact lowestPodGeneration_observeGeneration t.status g

theorem lowestAfter_eq_foldl (input : PassInput σ) (told : List (ObjectKey × Pod)) (s : PassState σ) :
    lowestAfter input told s = (recordedBy told).foldl (fun low g => lowerGeneration low (some g))
      s.status.lowestPodGeneration := by
  induction told generalizing s with
  | nil => rfl
  | cons e told ih =>
      have hnext : lowestAfter input (e :: told) s
          = lowestAfter input told (s.observePod e.1 e.2 input.now) := by
        simp only [lowestAfter, tellPods]
        rfl
      rw [hnext, ih, lowestPodGeneration_observePod, recordedBy, recordedBy, List.filterMap_cons]
      cases e.2.observedGeneration? <;> rfl

/-- *The lowest generation.* A status that has seen no generation yet is told of pods in some order. What it
then reports is the lowest generation since the last zero, or the lowest of all if one is negative. So it is
the lowest of all just when no zero was recorded, or one is negative, or a zero came last; and the order does
not matter just when no zero was recorded, or one is negative, or all are zero. -/
theorem lowestAfter_eq_iff (input : PassInput σ) (told : List (ObjectKey × Pod)) (s : PassState σ)
    (hs : s.status.lowestPodGeneration = 0) :
    let gs := recordedBy told
    lowestAfter input told s = lowestOf (if ∃ g ∈ gs, g < 0 then gs else sinceZero gs) ∧
      (lowestAfter input told s = lowestOf gs ↔
        (0 ∈ gs → (∃ g ∈ gs, g < 0) ∨ gs.getLast? = some 0)) ∧
      ((∀ told', told'.Perm told → lowestAfter input told' s = lowestAfter input told s) ↔
        (0 ∈ gs → (∃ g ∈ gs, g < 0) ∨ ∀ g ∈ gs, g = 0)) := by
  have hreported : ∀ told, lowestAfter input told s = reportedOf (recordedBy told) := by
    intro told
    rw [lowestAfter_eq_foldl, hs, reportedOf]
  simp only [hreported]
  exact ⟨reportedOf_eq _, reportedOf_eq_lowestOf_iff _, reportedOf_perm_iff told⟩

end Told

namespace Shard

/-- A pod that records a generation, at the key of its tablet. -/
def sampleRecording (generation : String) : ObjectKey × Pod :=
  (sampleKey sampleFirst, samplePod sampleFirst (.ofList [(AnnotationKey.observedGeneration, generation)]))

/-- The lowest generation that is reported of pods that record the given ones. -/
def sampleReported (generations : List String) : Int64 :=
  lowestAfter ((sample 1).input .sample {} .sample) (generations.map sampleRecording) { world := .sample }

/-- A negative generation is reported, though others are recorded around it, and in every order. -/
theorem sample_negative_reported :
    ({ world := .sample } : PassState MemoryStore).status.lowestPodGeneration = 0 ∧
      sampleReported ["5", "0", "-3", "soon", "0"] = -3 := by
  have hlowest := (lowestAfter_eq_iff ((sample 1).input .sample {} .sample)
    (["5", "0", "-3", "soon", "0"].map sampleRecording) { world := .sample } rfl).1
  refine ⟨rfl, hlowest.trans ?_⟩
  decide +kernel

/-- A pod that records zero makes the status forget the pods before it, and is forgotten itself. -/
theorem sample_zero_forgotten :
    lowestOf (recordedBy (["0", "5"].map sampleRecording)) = 0 ∧ sampleReported ["0", "5"] = 5 ∧
      sampleReported ["5", "0"] = 0 ∧ sampleReported ["5", "0", "7"] = 7 := by
  decide +kernel

end Shard

end TabletFleet
