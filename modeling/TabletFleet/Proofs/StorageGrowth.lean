import TabletFleet.Tablet.Objects

set_option autoImplicit false

/-! # Growth of storage

A claim that requests storage goes on to request the largest amount that it has been asked for, in the
spelling in which that amount came first. Sizes that cannot be read count for nothing, and nothing else
in the claim's specification changes. -/

namespace TabletFleet

namespace Quantity

/-! ## The largest of several sizes -/

/-- Both amounts are known, and `want` is more. -/
def exceededBy (q want : Quantity) : Bool :=
  match q.amount?, want.amount? with
  | some l, some w => l < w
  | _, _ => false

/-- The larger of two sizes; the first, if they cannot be compared or are the same. -/
def larger (q want : Quantity) : Quantity := if q.exceededBy want then want else q

theorem exceededBy_iff {q want : Quantity} :
    q.exceededBy want = true ↔ ∃ l w, q.amount? = some l ∧ want.amount? = some w ∧ l < w := by
  unfold exceededBy
  cases q.amount? with
  | none => simp
  | some l => cases want.amount? <;> simp

theorem exceededBy_eq_false {q want : Quantity} {l : Int} (h : q.amount? = some l) :
    q.exceededBy want = false ↔ ∀ w, want.amount? = some w → w ≤ l := by
  rw [← Bool.not_eq_true, exceededBy_iff]
  constructor
  · intro hnot w hwant
    exact Int.not_lt.1 fun hlt => hnot ⟨l, w, h, hwant, hlt⟩
  · rintro hle ⟨l', w, hl, hwant, hlt⟩
    obtain rfl : l = l' := Option.some.inj (h.symm.trans hl)
    exact Int.not_lt.2 (hle w hwant) hlt

theorem larger_of_unread {q want : Quantity} (h : q.amount? = none ∨ want.amount? = none) :
    q.larger want = q := by
  refine if_neg fun hexceeded => ?_
  obtain ⟨l, w, hq, hwant, -⟩ := exceededBy_iff.1 hexceeded
  rcases h with h | h
  · rw [h] at hq
    cases hq
  · rw [h] at hwant
    cases hwant

theorem foldl_larger_of_unread {q : Quantity} (h : q.amount? = none) (sizes : List Quantity) :
    sizes.foldl larger q = q := by
  induction sizes with
  | nil => rfl
  | cons want sizes ih => rw [List.foldl_cons, larger_of_unread (.inl h), ih]

/-- The amount of the largest of several sizes is the largest amount. -/
theorem amount?_foldl_larger {q : Quantity} {l : Int} (h : q.amount? = some l)
    (sizes : List Quantity) :
    (sizes.foldl larger q).amount? = (l :: sizes.filterMap amount?).max? := by
  rw [List.max?_cons']
  induction sizes generalizing q l with
  | nil => exact h
  | cons want sizes ih =>
      rw [List.foldl_cons, larger]
      by_cases hexceeded : q.exceededBy want = true
      · obtain ⟨l', w, hl, hwant, hlt⟩ := exceededBy_iff.1 hexceeded
        obtain rfl : l = l' := Option.some.inj (h.symm.trans hl)
        rw [if_pos hexceeded, ih hwant, List.filterMap_cons_some hwant, List.foldl_cons,
          Int.max_eq_right (Int.le_of_lt hlt)]
      · rw [if_neg hexceeded, ih h]
        have hle := (exceededBy_eq_false h).1 (Bool.eq_false_iff.2 hexceeded)
        cases hwant : want.amount? with
        | none => rw [List.filterMap_cons_none hwant]
        | some w =>
            rw [List.filterMap_cons_some hwant, List.foldl_cons, Int.max_eq_left (hle w hwant)]

theorem exists_amount_foldl_larger {q : Quantity} {l : Int} (h : q.amount? = some l)
    (sizes : List Quantity) : ∃ m, (sizes.foldl larger q).amount? = some m ∧ l ≤ m := by
  rw [amount?_foldl_larger h]
  obtain ⟨m, hm⟩ : ∃ m, (l :: sizes.filterMap amount?).max? = some m := ⟨_, List.max?_cons'⟩
  exact ⟨m, hm, (List.max?_eq_some_iff.1 hm).2 l List.mem_cons_self⟩

/-- Of the sizes of the largest amount the first one is taken. -/
theorem find?_foldl_larger {q : Quantity} {l : Int} (h : q.amount? = some l)
    (sizes : List Quantity) :
    (q :: sizes).find? (·.amount? = (sizes.foldl larger q).amount?)
      = some (sizes.foldl larger q) := by
  induction sizes generalizing q l with
  | nil => simp
  | cons want sizes ih =>
      rw [List.foldl_cons, larger]
      by_cases hexceeded : q.exceededBy want = true
      · -- what is larger than `q` is found behind it
        obtain ⟨l', w, hl, hwant, hlt⟩ := exceededBy_iff.1 hexceeded
        obtain rfl : l = l' := Option.some.inj (h.symm.trans hl)
        obtain ⟨m, hm, hle⟩ := exists_amount_foldl_larger hwant sizes
        have hskip : ¬q.amount? = (sizes.foldl larger want).amount? := by
          rw [h, hm, Option.some.injEq]
          omega
        rw [if_pos hexceeded, List.find?_cons_of_neg (by simpa using hskip)]
        exact ih hwant
      · -- `want` is of the largest amount only if `q` is too
        have hbelow := (exceededBy_eq_false h).1 (Bool.eq_false_iff.2 hexceeded)
        obtain ⟨m, hm, hle⟩ := exists_amount_foldl_larger h sizes
        have hfound := ih h
        rw [if_neg hexceeded]
        by_cases hq : q.amount? = (sizes.foldl larger q).amount?
        · rw [List.find?_cons_of_pos (by simpa using hq)] at hfound ⊢
          exact hfound
        · have hskip : ¬want.amount? = (sizes.foldl larger q).amount? := by
            intro hwant
            have hml := hbelow m (hwant.trans hm)
            rw [h, hm, Option.some.injEq] at hq
            omega
          rw [List.find?_cons_of_neg (by simpa using hq)] at hfound ⊢
          rw [List.find?_cons_of_neg (by simpa using hskip)]
          exact hfound

end Quantity

/-! ## Requests -/

namespace ClaimSpec

/-- The specification without its storage request. -/
def withoutStorage (s : ClaimSpec) : ClaimSpec :=
  { s with resources := s.resources.map fun r =>
      { r with requests := r.requests.map (·.erase "storage") } }

/-- Of a specification that requests storage, the request is all that is replaced. -/
theorem withoutStorage_requestStorage {s : ClaimSpec} {live : Quantity}
    (h : s.requestedStorage? = some live) (size : Quantity) :
    (s.requestStorage size).withoutStorage = s.withoutStorage := by
  obtain ⟨resources, extra⟩ := s
  cases resources with
  | none => cases h
  | some r =>
      obtain ⟨limits, requests⟩ := r
      cases requests with
      | none => cases h
      | some requests =>
          have herase : (requests.insert "storage" size).erase "storage"
              = requests.erase "storage" := by
            refine OrdMap.ext_get? fun k => ?_
            rw [OrdMap.get?_erase, OrdMap.get?_erase, OrdMap.get?_insert]
            split <;> rfl
          simp only [withoutStorage, requestStorage, Option.getD_some, Option.map_some, herase]

theorem growTo_of_requested {s : ClaimSpec} {live : Quantity} (h : s.requestedStorage? = some live)
    (want : Quantity) :
    s.growTo want = if live.exceededBy want then s.requestStorage want else s := by
  have hgrows : s.growsTo want = live.exceededBy want := by
    rw [growsTo, h]
    rfl
  rw [growTo, hgrows]

theorem requestedStorage?_growTo {s : ClaimSpec} {live : Quantity}
    (h : s.requestedStorage? = some live) (want : Quantity) :
    (s.growTo want).requestedStorage? = some (live.larger want) := by
  rw [growTo_of_requested h, Quantity.larger]
  split
  · exact requestedStorage?_requestStorage s want
  · exact h

theorem withoutStorage_growTo {s : ClaimSpec} {live : Quantity}
    (h : s.requestedStorage? = some live) (want : Quantity) :
    (s.growTo want).withoutStorage = s.withoutStorage := by
  rw [growTo_of_requested h]
  split
  · exact withoutStorage_requestStorage h want
  · rfl

end ClaimSpec

/-- The storage that the tablet's template requests. -/
def TabletSpec.requestedStorage? (t : TabletSpec) : Option Quantity :=
  t.claimTemplate.bind (·.requestedStorage?)

/-- The amount of storage that the tablet's template requests, if it can be read. -/
def TabletSpec.requestedAmount? (t : TabletSpec) : Option Int :=
  t.requestedStorage?.bind (·.amount?)

namespace Claim

/-- The storage that the claim requests. -/
def requestedStorage? (c : Claim) : Option Quantity := c.spec.bind (·.requestedStorage?)

/-- The claim after the changes of several specifications have been applied in turn. -/
def updatedFor (c : Claim) (ts : List TabletSpec) : Claim := ts.foldl updateInPlace c

section Requested

variable {c : Claim} {live : Quantity} (h : c.requestedStorage? = some live)
include h

/-- One change: the larger size is requested. -/
theorem requestedStorage?_updateInPlace (t : TabletSpec) :
    (c.updateInPlace t).requestedStorage?
      = some (t.requestedStorage?.elim live live.larger) := by
  obtain ⟨spec, hspec, hlive⟩ := Option.bind_eq_some_iff.1 h
  have hwant : t.requestedStorage? = t.claimTemplate.bind (·.requestedStorage?) := rfl
  unfold updateInPlace
  rw [hwant]
  cases t.claimTemplate.bind (·.requestedStorage?) with
  | none => exact h
  | some want =>
      dsimp only [requestedStorage?]
      rw [hspec, Option.getD_some, Option.bind_some]
      exact ClaimSpec.requestedStorage?_growTo hlive want

theorem withoutStorage_updateInPlace (t : TabletSpec) :
    (c.updateInPlace t).spec.map (·.withoutStorage) = c.spec.map (·.withoutStorage) := by
  obtain ⟨spec, hspec, hlive⟩ := Option.bind_eq_some_iff.1 h
  unfold updateInPlace
  cases t.claimTemplate.bind (·.requestedStorage?) with
  | none => rfl
  | some want =>
      dsimp only
      rw [hspec, Option.getD_some, Option.map_some, Option.map_some,
        ClaimSpec.withoutStorage_growTo hlive]

/-- A missing size, or one that cannot be read, changes nothing in the specification. -/
theorem spec_updateInPlace_of_unread {t : TabletSpec} (ht : t.requestedAmount? = none) :
    (c.updateInPlace t).spec = c.spec := by
  obtain ⟨spec, hspec, hlive⟩ := Option.bind_eq_some_iff.1 h
  have hunread : ∀ want, t.claimTemplate.bind (·.requestedStorage?) = some want →
      want.amount? = none := Option.bind_eq_none_iff.1 ht
  unfold updateInPlace
  cases hwant : t.claimTemplate.bind (·.requestedStorage?) with
  | none => rfl
  | some want =>
      have hkept : ¬live.exceededBy want = true := by
        intro hexceeded
        obtain ⟨l, w, -, hread, -⟩ := Quantity.exceededBy_iff.1 hexceeded
        rw [hunread want hwant] at hread
        cases hread
      dsimp only
      rw [hspec, Option.getD_some, ClaimSpec.growTo_of_requested hlive, if_neg hkept]

/-- Many changes: the largest of all sizes is requested. -/
theorem requestedStorage?_updatedFor (ts : List TabletSpec) :
    (c.updatedFor ts).requestedStorage?
      = some ((ts.filterMap (·.requestedStorage?)).foldl Quantity.larger live) := by
  induction ts generalizing c live with
  | nil => exact h
  | cons t ts ih =>
      have hfirst := requestedStorage?_updateInPlace h t
      rw [updatedFor, List.foldl_cons, ← updatedFor, ih hfirst]
      cases hwant : t.requestedStorage? with
      | none => rw [List.filterMap_cons_none hwant, Option.elim_none]
      | some want => rw [List.filterMap_cons_some hwant, Option.elim_some, List.foldl_cons]

theorem withoutStorage_updatedFor (ts : List TabletSpec) :
    (c.updatedFor ts).spec.map (·.withoutStorage) = c.spec.map (·.withoutStorage) := by
  induction ts generalizing c live with
  | nil => rfl
  | cons t ts ih =>
      rw [updatedFor, List.foldl_cons, ← updatedFor, ih (requestedStorage?_updateInPlace h t)]
      exact withoutStorage_updateInPlace h t

end Requested

/-! ## What is requested in the end -/

/-- After any changes, a claim whose request can be read requests the largest of all amounts that it
and the templates have requested, whatever their order, and in the spelling in which this amount came
first. A request that cannot be read stays. A claim that requests storage does not notice missing sizes
and sizes that cannot be read, and keeps all else of its specification. -/
theorem storage_only_grows (c : Claim) (ts : List TabletSpec) {live : Quantity}
    (h : c.requestedStorage? = some live) :
    (∀ amount, live.amount? = some amount →
      ∃ final, (c.updatedFor ts).requestedStorage? = some final ∧
        final.amount? = (amount :: ts.filterMap (·.requestedAmount?)).max? ∧
        (live :: ts.filterMap (·.requestedStorage?)).find? (·.amount? = final.amount?)
          = some final ∧
        ∀ ts', ts'.Perm ts → ∃ final', (c.updatedFor ts').requestedStorage? = some final' ∧
          final'.amount? = final.amount?) ∧
    (live.amount? = none → (c.updatedFor ts).requestedStorage? = some live) ∧
    (∀ t : TabletSpec, t.requestedAmount? = none →
      ((c.updatedFor ts).updateInPlace t).spec = (c.updatedFor ts).spec) ∧
    (c.updatedFor ts).spec.map (·.withoutStorage) = c.spec.map (·.withoutStorage) := by
  have hamounts : ∀ ts : List TabletSpec, (ts.filterMap (·.requestedStorage?)).filterMap (·.amount?)
      = ts.filterMap (·.requestedAmount?) := fun ts => List.filterMap_filterMap
  have hfinal := requestedStorage?_updatedFor h
  refine ⟨fun amount hamount => ⟨_, hfinal ts, ?_, Quantity.find?_foldl_larger hamount _, ?_⟩,
    fun hunread => ?_, fun t ht => spec_updateInPlace_of_unread (hfinal ts) ht,
    withoutStorage_updatedFor h ts⟩
  · rw [Quantity.amount?_foldl_larger hamount, hamounts]
  · intro ts' hperm
    refine ⟨_, hfinal ts', ?_⟩
    rw [Quantity.amount?_foldl_larger hamount, Quantity.amount?_foldl_larger hamount, hamounts,
      hamounts, List.max?_cons', List.max?_cons', Option.some.injEq]
    exact (hperm.filterMap _).foldl_eq' (fun x _ y _ z => by omega) amount
  · rw [hfinal, Quantity.foldl_larger_of_unread hunread]

/-- A claim for the given size. -/
def sampleOf (size : String) : Claim := { spec := some (({} : ClaimSpec).requestStorage ⟨size⟩) }

/-- A tablet whose data volume is to be of the given size. -/
def sampleTablet (size : String) : TabletSpec :=
  { (default : TabletSpec) with claimTemplate := some (({} : ClaimSpec).requestStorage ⟨size⟩) }

/-- Larger sizes are requested in the spelling that came first, smaller ones are not, and a request that
cannot be read stays. -/
theorem sample_storage_grown :
    (sampleOf "10Gi").requestedStorage? = some ⟨"10Gi"⟩ ∧
    Quantity.amount? ⟨"10Gi"⟩ = some 10737418240 ∧
    ((sampleOf "10Gi").updatedFor
      (["20Gi", "20480Mi", "much", "5Gi"].map sampleTablet)).requestedStorage? = some ⟨"20Gi"⟩ ∧
    (sampleOf "much").requestedStorage? = some ⟨"much"⟩ ∧ Quantity.amount? ⟨"much"⟩ = none ∧
    ((sampleOf "much").updatedFor [sampleTablet "20Gi"]).requestedStorage? = some ⟨"much"⟩ := by
  have hread : Quantity.amount? ⟨"10Gi"⟩ = some 10737418240 := by decide
  have hunread : Quantity.amount? ⟨"much"⟩ = none := by decide
  have hlive : (sampleOf "10Gi").requestedStorage? = some ⟨"10Gi"⟩ := rfl
  have hlive' : (sampleOf "much").requestedStorage? = some ⟨"much"⟩ := rfl
  have hgrown := storage_only_grows (sampleOf "10Gi")
    (["20Gi", "20480Mi", "much", "5Gi"].map sampleTablet) hlive
  have hkept := storage_only_grows (sampleOf "much") [sampleTablet "20Gi"] hlive'
  obtain ⟨final, hfinal, hmax, hfirst, -⟩ := hgrown.1 10737418240 hread
  have hamount : final.amount? = some 21474836480 := hmax.trans (by decide)
  rw [hamount] at hfirst
  have hspelling : some final = some ⟨"20Gi"⟩ := hfirst.symm.trans (by decide)
  exact ⟨hlive, hread, hfinal.trans hspelling, hlive', hunread, hkept.2.1 hunread⟩

end Claim

end TabletFleet
