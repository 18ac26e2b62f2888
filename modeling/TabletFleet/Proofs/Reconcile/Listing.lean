import TabletFleet.Proofs.OrdMap
import TabletFleet.Proofs.StateRun
import TabletFleet.Proofs.Store.Plan
import TabletFleet.Reconcile.ObjectSet

set_option autoImplicit false

/-! # The live objects of a set

What a memory store lists is what it holds in the namespace under the labels of the selector, key by
key. The unwanted objects are those among them that are not desired, each at a key of its own. -/

namespace TabletFleet

open ManagedObject (metadata key?)
open StateRun

/-! ## Listed objects -/

/-- In the namespace, with every label of the selector. -/
def ObjectMeta.isListed (m : ObjectMeta) (ns : String) (selector : StringMap) : Bool :=
  m.ns == some ns && Selector.accepts selector m.labels

theorem ObjectMeta.isTerminating_eq_false {m : ObjectMeta} :
    m.isTerminating = false ↔ m.deletionTimestamp = none := by
  simp [ObjectMeta.isTerminating]

/-- An object lies in the namespace that its key names. -/
theorem ManagedObject.ns_of_key? {K : Type} [ManagedObject K] {object : K} {key : ObjectKey}
    (h : key? object = some key) : (metadata object).ns = some key.ns := by
  obtain ⟨ns, hns, h⟩ := Option.bind_eq_some_iff.1 h
  obtain ⟨name, -, h⟩ := Option.bind_eq_some_iff.1 h
  rw [hns, ← Option.some.inj h]

/-- Whether an object is listed is seen from its key and its labels. -/
theorem isListed_iff {K : Type} [ManagedObject K] {object : K} {key : ObjectKey} {ns : String}
    {selector : StringMap} (h : key? object = some key) :
    (metadata object).isListed ns selector = true ↔
      key.ns = ns ∧ Selector.accepts selector (metadata object).labels = true := by
  rw [ObjectMeta.isListed, ManagedObject.ns_of_key? h, Bool.and_eq_true, beq_iff_eq,
    Option.some.injEq]

namespace ObjectSet

variable {K : Type}

/-- The live objects that a sweep over the set finds in a store, by key. -/
def liveIn [Stored K] (set : ObjectSet) (s : MemoryStore) : OrdMap ObjectKey K :=
  live (s.list K set.ns set.selector)

theorem live_select [ManagedObject K] (t : Table K) (ns : String) (selector : StringMap) :
    live (t.select ns selector)
      = t.entries.filter fun _ object => (metadata object).isListed ns selector := by
  have hentries : ∀ l : List (ObjectKey × K), (∀ e ∈ l, key? e.2 = some e.1) →
      ((l.map (·.2)).filter fun object => (metadata object).isListed ns selector).filterMap
          (fun object => (key? object).map (·, object))
        = l.filter fun e => (metadata e.2).isListed ns selector := by
    intro l hl
    induction l with
    | nil => rfl
    | cons e l ih =>
        have hrest := ih fun x hx => hl x (List.mem_cons_of_mem _ hx)
        have hkey := hl e (List.mem_cons_self ..)
        rw [List.map_cons, List.filter_cons, List.filter_cons]
        by_cases hlisted : (metadata e.2).isListed ns selector = true
        · rw [if_pos hlisted, if_pos hlisted, List.filterMap_cons, hkey, hrest]
          rfl
        · rw [if_neg hlisted, if_neg hlisted, hrest]
  have hkeyed : ∀ e ∈ t.entries.toList, key? e.2 = some e.1 := fun e he =>
    t.keyed (OrdMap.mem_toList.1 he)
  have hlist := hentries t.entries.toList hkeyed
  have hfilter := OrdMap.ofList_toList
    (t.entries.filter fun _ object => (metadata object).isListed ns selector)
  rw [live, ← hfilter]
  exact congrArg OrdMap.ofList hlist

theorem get?_liveIn [Stored K] (set : ObjectSet) (s : MemoryStore) (key : ObjectKey) :
    (set.liveIn s).get? key
      = (s.fetch? K key).filter fun object => (metadata object).isListed set.ns set.selector := by
  rw [liveIn, MemoryStore.list, live_select, OrdMap.get?_filter]
  rfl

theorem get?_liveIn_eq_some [Stored K] {set : ObjectSet} {s : MemoryStore} {key : ObjectKey}
    {object : K} :
    (set.liveIn s).get? key = some object ↔
      s.fetch? K key = some object ∧ (metadata object).isListed set.ns set.selector = true := by
  rw [get?_liveIn, Option.filter_eq_some_iff]

/-! ## Unwanted objects -/

theorem mem_unwanted {set : ObjectSet} {live : OrdMap ObjectKey K} {key : ObjectKey} {object : K} :
    (key, object) ∈ set.unwanted live ↔ live.get? key = some object ∧ key ∉ set.keys := by
  rw [unwanted, List.mem_filter, OrdMap.mem_toList]
  simp

theorem nodup_unwanted (set : ObjectSet) (live : OrdMap ObjectKey K) :
    ((set.unwanted live).map (·.1)).Nodup := by
  refine List.Sublist.nodup (List.Sublist.map _ ?_) live.nodup_keys
  exact List.filter_sublist

theorem notMem_keys_of_unwanted {set : ObjectSet} {live : OrdMap ObjectKey K} {key : ObjectKey}
    (h : key ∈ (set.unwanted live).map (·.1)) : key ∉ set.keys := by
  obtain ⟨e, he, rfl⟩ := List.mem_map.1 h
  exact (mem_unwanted.1 he).2

/-! ## The calls of a sweep -/

theorem nodup_eraseDups {α : Type} [BEq α] [LawfulBEq α] (l : List α) : l.eraseDups.Nodup := by
  induction h : l.length using Nat.strongRecOn generalizing l with
  | ind n ih =>
      cases l with
      | nil => exact List.nodup_nil
      | cons a l =>
          rw [List.eraseDups_cons, List.nodup_cons]
          refine ⟨fun hmem => ?_, ih _ ?_ _ rfl⟩
          · have hne := (List.mem_filter.1 (List.mem_eraseDups.1 hmem)).2
            simp at hne
          · have hle := List.length_filter_le (fun b => !b == a) l
            rw [List.length_cons] at h
            omega

/-- One call for every desired key, then one for every unwanted object. -/
def calls (set : ObjectSet) (live : OrdMap ObjectKey K) (desired : ObjectKey → Action K)
    (unwanted : ObjectKey → K → Action K) : List (ObjectKey × Action K) :=
  (set.keys.eraseDups.map fun key => (key, desired key)) ++
    (set.unwanted live).map fun e => (e.1, unwanted e.1 e.2)

section Calls

variable {set : ObjectSet} {live : OrdMap ObjectKey K} {desired : ObjectKey → Action K}
variable {unwanted : ObjectKey → K → Action K} {key : ObjectKey}

theorem mem_calls {e : ObjectKey × Action K} :
    e ∈ set.calls live desired unwanted ↔
      (e.1 ∈ set.keys ∧ e.2 = desired e.1) ∨
        (e.1 ∉ set.keys ∧ ∃ object, live.get? e.1 = some object ∧ e.2 = unwanted e.1 object) := by
  rw [calls, List.mem_append, List.mem_map, List.mem_map]
  refine or_congr ⟨?_, ?_⟩ ⟨?_, ?_⟩
  · rintro ⟨key, hkey, rfl⟩
    exact ⟨List.mem_eraseDups.1 hkey, rfl⟩
  · rintro ⟨hkey, heq⟩
    exact ⟨e.1, List.mem_eraseDups.2 hkey, Prod.ext rfl heq.symm⟩
  · rintro ⟨⟨key, object⟩, hmem, rfl⟩
    obtain ⟨hlive, hkey⟩ := mem_unwanted.1 hmem
    exact ⟨hkey, object, hlive, rfl⟩
  · rintro ⟨hkey, object, hlive, heq⟩
    exact ⟨(e.1, object), mem_unwanted.2 ⟨hlive, hkey⟩, Prod.ext rfl heq.symm⟩

theorem notMem_calls (hkey : key ∉ set.keys) (hlive : live.get? key = none) :
    key ∉ (set.calls live desired unwanted).map (·.1) := by
  intro h
  obtain ⟨e, he, rfl⟩ := List.mem_map.1 h
  rcases mem_calls.1 he with ⟨hdesired, -⟩ | ⟨-, object, hobject, -⟩
  · exact hkey hdesired
  · rw [hlive] at hobject
    cases hobject

variable (set live desired unwanted)

theorem nodup_calls : ((set.calls live desired unwanted).map (·.1)).Nodup := by
  have hdesired : ((set.keys.eraseDups.map fun key => (key, desired key)).map (·.1))
      = set.keys.eraseDups := by
    rw [List.map_map]
    exact List.map_id' _
  have hunwanted : (((set.unwanted live).map fun e => (e.1, unwanted e.1 e.2)).map (·.1))
      = (set.unwanted live).map (·.1) := by
    rw [List.map_map]
    rfl
  rw [calls, List.map_append, hdesired, hunwanted, List.nodup_append]
  refine ⟨nodup_eraseDups _, set.nodup_unwanted live, ?_⟩
  rintro key hkey _ hmem rfl
  exact notMem_keys_of_unwanted hmem (List.mem_eraseDups.1 hkey)

/-- The calls of a sweep, if they fit their keys. -/
def plan [Stored K] (hdesired : ∀ key ∈ set.keys, (desired key).Fits key)
    (hunwanted : ∀ key object, live.get? key = some object → (unwanted key object).Fits key) :
    Plan K where
  entries := set.calls live desired unwanted
  nodup := set.nodup_calls live desired unwanted
  fits e he := by
    rcases mem_calls.1 he with ⟨hkey, heq⟩ | ⟨-, object, hobject, heq⟩
    · rw [heq]
      exact hdesired e.1 hkey
    · rw [heq]
      exact hunwanted e.1 object hobject

end Calls

/-! ## The sweep -/

/-- The keys in the order in which they are visited: every distinct desired key where it occurs first,
then the keys of the other live objects as they are ordered. -/
def visitOrder (set : ObjectSet) (live : OrdMap ObjectKey K) : List ObjectKey :=
  set.keys.eraseDups ++ live.keys.filter (· ∉ set.keys)

theorem map_fst_unwanted (set : ObjectSet) (live : OrdMap ObjectKey K) :
    (set.unwanted live).map (·.1) = live.keys.filter (· ∉ set.keys) := by
  rw [unwanted, OrdMap.keys, List.filter_map]
  congr 2
  funext e
  simp

theorem map_fst_calls (set : ObjectSet) (live : OrdMap ObjectKey K) (desired : ObjectKey → Action K)
    (unwanted : ObjectKey → K → Action K) :
    (set.calls live desired unwanted).map (·.1) = set.visitOrder live := by
  rw [calls, visitOrder, ← map_fst_unwanted, List.map_append, List.map_map, List.map_map]
  exact congrArg (· ++ _) (List.map_id _)

theorem nodup_visitOrder (set : ObjectSet) (live : OrdMap ObjectKey K) :
    (set.visitOrder live).Nodup := by
  rw [visitOrder, ← map_fst_unwanted, List.nodup_append]
  refine ⟨nodup_eraseDups _, set.nodup_unwanted live, ?_⟩
  rintro key hkey _ hmem rfl
  exact notMem_keys_of_unwanted hmem (List.mem_eraseDups.1 hkey)

theorem notMem_visitOrder {set : ObjectSet} {live : OrdMap ObjectKey K} {key : ObjectKey} :
    key ∉ set.visitOrder live ↔ key ∉ set.keys ∧ live.get? key = none := by
  rw [visitOrder, List.mem_append, List.mem_eraseDups, List.mem_filter, OrdMap.mem_keys]
  by_cases hkey : key ∈ set.keys <;> simp [hkey]

/-- The desired keys among those that are visited. -/
theorem filter_visitOrder (set : ObjectSet) (live : OrdMap ObjectKey K) :
    (set.visitOrder live).filter (· ∈ set.keys) = set.keys.eraseDups := by
  have hunwanted : (live.keys.filter (· ∉ set.keys)).filter (· ∈ set.keys) = [] :=
    List.filter_eq_nil_iff.2 fun key hmem => by simpa using (List.mem_filter.1 hmem).2
  rw [visitOrder, List.filter_append, hunwanted, List.append_nil]
  exact List.filter_eq_self.2 fun key hmem => by simpa using List.mem_eraseDups.1 hmem

section Sweep

variable {σ : Type} [ManagedObject K] [DecidableEq K]

theorem visitAll_apply (store : ObjectStore σ K) (strategy : Strategy σ K) (set : ObjectSet)
    (live : OrdMap ObjectKey K) (s : σ) :
    (visitAll store strategy set live s).2 =
      ((set.unwanted live).mapM (fun e => turnDown store strategy e.1 e.2)
        (set.keys.eraseDups.mapM (visitDesired store strategy set live) s).2).2 := rfl

variable {W V : Type} (store : ObjectStore σ K) (strategy : Strategy σ K) (set : ObjectSet)
variable (live : OrdMap ObjectKey K) {s : σ}

/-- A sweep makes its visits one after another. Each of them finds the view at its own key as it was at
the beginning, and what it makes of it is there at the end. -/
theorem visitAll_visits {v : Visits σ ObjectKey ObjectKey W V} (hkeyOf : v.keyOf = id) (hinv : v.Inv s)
    (hdesired : ∀ key ∈ set.keys, ∀ t, v.Inv t → v.view key t = v.view key s →
      v.Step (visitDesired store strategy set live) key t)
    (hunwanted : ∀ key object, key ∉ set.keys → live.get? key = some object → ∀ t, v.Inv t →
      v.view key t = v.view key s → v.Step (fun key => turnDown store strategy key object) key t) :
    let final := (visitAll store strategy set live s).2
    v.Inv final ∧
      v.world final = (set.visitOrder live).foldl (fun w key => v.effect key w) (v.world s) ∧
      (∀ key ∈ set.visitOrder live, v.after key (v.view key final)) ∧
      ∀ key, key ∉ set.visitOrder live → v.view key final = v.view key s := by
  intro final
  have hkeys : set.keys.eraseDups.map v.keyOf = set.keys.eraseDups := by rw [hkeyOf, List.map_id]
  have hnodup : (set.keys.eraseDups.map v.keyOf).Nodup := by
    rw [hkeys]
    exact nodup_eraseDups _
  obtain ⟨hmid, hmidWorld, hmidAfter, hmidFrame⟩ := mapM_visits hinv hnodup
    fun key hmem t ht hview => hdesired key (List.mem_eraseDups.1 hmem) t ht (by
      rwa [hkeyOf] at hview)
  rw [hkeys] at hmidFrame
  revert hmid hmidWorld hmidAfter hmidFrame
  generalize hmidState : (set.keys.eraseDups.mapM (visitDesired store strategy set live) s).2 = mid
  intro hmid hmidWorld hmidAfter hmidFrame
  have hunwantedKeys : (set.unwanted live).map (v.comap Prod.fst).keyOf
      = (set.unwanted live).map (·.1) := by
    simp only [Visits.comap, hkeyOf, id]
  obtain ⟨hend, hendWorld, hendAfter, hendFrame⟩ := mapM_visits (v := v.comap Prod.fst)
    (f := fun e => turnDown store strategy e.1 e.2) hmid
    (by rw [hunwantedKeys]; exact set.nodup_unwanted live)
    fun e he t ht hview => by
      obtain ⟨hlive, hkey⟩ := mem_unwanted.1 he
      have huntouched := hmidFrame e.1 fun hmem => hkey (List.mem_eraseDups.1 hmem)
      simp only [Visits.comap, hkeyOf, id] at hview
      exact (hunwanted e.1 e.2 hkey hlive t ht (hview.trans huntouched)).comap rfl
  rw [hunwantedKeys] at hendFrame
  simp only [Visits.comap, hkeyOf, id] at hendAfter
  have hfinal : final = ((set.unwanted live).mapM
      (fun e => turnDown store strategy e.1 e.2) mid).2 := by
    rw [← hmidState]
    rfl
  rw [hfinal, visitOrder, ← map_fst_unwanted]
  refine ⟨hend, ?_, fun key hkey => ?_, fun key hkey => ?_⟩
  · rw [List.foldl_append, ← hmidWorld, List.foldl_map]
    exact hendWorld
  · rcases List.mem_append.1 hkey with hkey | hkey
    · have hnot : key ∉ (set.unwanted live).map (·.1) := fun hmem =>
        notMem_keys_of_unwanted hmem (List.mem_eraseDups.1 hkey)
      have hafter := hmidAfter key hkey
      rw [hkeyOf] at hafter
      exact (hendFrame key hnot).symm ▸ hafter
    · obtain ⟨e, he, rfl⟩ := List.mem_map.1 hkey
      exact hendAfter e he
  · rw [List.mem_append, not_or] at hkey
    exact (hendFrame key hkey.2).trans (hmidFrame key hkey.1)

/-- What the visits of a sweep answer, if each of them can tell it from what it finds. -/
theorem visitAll_answers {β : Type} {v : Visits σ ObjectKey ObjectKey W V} (hkeyOf : v.keyOf = id)
    (hinv : v.Inv s) (answer : Visit → β) (expected : ObjectKey → β) (expectedUnwanted : ObjectKey → K → β)
    (hdesired : ∀ key ∈ set.keys, ∀ t, v.Inv t → v.view key t = v.view key s →
      v.Step (visitDesired store strategy set live) key t ∧
        answer (visitDesired store strategy set live key t).1 = expected key)
    (hunwanted : ∀ key object, key ∉ set.keys → live.get? key = some object → ∀ t, v.Inv t →
      v.view key t = v.view key s → v.Step (fun key => turnDown store strategy key object) key t ∧
        answer (turnDown store strategy key object t).1 = expectedUnwanted key object) :
    (visitAll store strategy set live s).1.map answer =
      set.keys.eraseDups.map expected ++
        (set.unwanted live).map fun e => expectedUnwanted e.1 e.2 := by
  have hkeys : set.keys.eraseDups.map v.keyOf = set.keys.eraseDups := by rw [hkeyOf, List.map_id]
  have hnodup : (set.keys.eraseDups.map v.keyOf).Nodup := by
    rw [hkeys]
    exact nodup_eraseDups _
  have hfirst : ∀ key ∈ set.keys.eraseDups, ∀ t, v.Inv t →
      v.view (v.keyOf key) t = v.view (v.keyOf key) s →
      v.Step (visitDesired store strategy set live) key t ∧
        answer (visitDesired store strategy set live key t).1 = expected key := by
    intro key hmem t ht hview
    rw [hkeyOf] at hview
    exact hdesired key (List.mem_eraseDups.1 hmem) t ht hview
  obtain ⟨hmid, -, -, hmidFrame⟩ := mapM_visits hinv hnodup fun key hmem t ht hview =>
    (hfirst key hmem t ht hview).1
  have hanswers := mapM_answers answer expected hinv hnodup hfirst
  rw [hkeys] at hmidFrame
  have hunwantedKeys : (set.unwanted live).map (v.comap Prod.fst).keyOf
      = (set.unwanted live).map (·.1) := by
    simp only [Visits.comap, hkeyOf, id]
  have hanswersUnwanted := mapM_answers (v := v.comap Prod.fst)
    (f := fun e => turnDown store strategy e.1 e.2) answer (fun e => expectedUnwanted e.1 e.2) hmid
    (by rw [hunwantedKeys]; exact set.nodup_unwanted live)
    fun e he t ht hview => by
      obtain ⟨hlive, hkey⟩ := mem_unwanted.1 he
      have huntouched := hmidFrame e.1 fun hmem => hkey (List.mem_eraseDups.1 hmem)
      simp only [Visits.comap, hkeyOf, id] at hview
      obtain ⟨hstep, hanswer⟩ := hunwanted e.1 e.2 hkey hlive t ht (hview.trans huntouched)
      exact ⟨hstep.comap rfl, hanswer⟩
  rw [← hanswers, ← hanswersUnwanted, ← List.map_append]
  rfl

end Sweep

end ObjectSet

end TabletFleet
