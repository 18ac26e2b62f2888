import Mathlib.Data.List.Sort
import TabletFleet.Store.Slots

set_option autoImplicit false

/-! # Single operations on a store of slots

What each operation does, told by the rejections and by what lies in the slots: when it fails and with which
error, what it leaves, and in which order lists give what they find. -/

namespace TabletFleet

open ManagedObject (key? metadata)

/-! ## Rejections -/

theorem Rejections.mem_reject {r : Rejections} {verb verb' : Verb} {name name' : String} :
    (verb', name') ∈ r.reject verb name ↔ (verb' = verb ∧ name' = name) ∨ (verb', name') ∈ r := by
  rw [reject, List.mem_cons, Prod.mk.injEq]

theorem Rejections.mem_allow {r : Rejections} {verb verb' : Verb} {name name' : String} :
    (verb', name') ∈ r.allow verb name ↔ ¬(verb' = verb ∧ name' = name) ∧ (verb', name') ∈ r := by
  rw [allow, List.mem_filter, decide_eq_true_eq, ne_eq, Prod.mk.injEq, and_comm]

/-! ## Looking up and storing -/

namespace SlotStore

variable {K : Type} [ManagedObject K] (s : SlotStore) {key : ObjectKey} {object : K}

theorem check_eq (verb : Verb) (key : ObjectKey) :
    s.check K verb key =
      if (verb, key.name) ∈ s.rejections then .error (.rejected verb (ManagedObject.kind K) key)
      else .ok () := by
  rw [check, Rejections.error?]
  by_cases h : (verb, key.name) ∈ s.rejections <;> simp [h]

theorem requireKey_eq (object : K) :
    requireKey object = (key? object).elim (.error (.missingKey (ManagedObject.kind K))) .ok := by
  rw [requireKey]
  cases key? object <;> rfl

theorem insert_eq (h : key? object = some key) : s.insert object = .ok (s.write true key object) := by
  rw [insert, requireKey_eq, h]
  rfl

theorem create_eq (h : key? object = some key) :
    s.create object =
      if (.create, key.name) ∈ s.rejections then
        .error (.rejected .create (ManagedObject.kind K) key)
      else if (s.objects.get? (.of K key)).isSome then
        .error (.alreadyExists (ManagedObject.kind K) key)
      else .ok (s.write true key object) := by
  simp only [create, requireKey_eq, h, Option.elim_some, check_eq, OrdMap.contains, bind, Except.bind]
  by_cases hr : (.create, key.name) ∈ s.rejections
  · simp only [hr, if_true]
  · simp only [hr, if_false]
    rfl

theorem update_eq (h : key? object = some key) :
    s.update object =
      if (.update, key.name) ∈ s.rejections then
        .error (.rejected .update (ManagedObject.kind K) key)
      else if (s.objects.get? (.of K key)).isSome then .ok (s.write false key object)
      else .error (.notFound (ManagedObject.kind K) key) := by
  simp only [update, requireKey_eq, h, Option.elim_some, check_eq, OrdMap.contains, bind, Except.bind]
  by_cases hr : (.update, key.name) ∈ s.rejections
  · simp only [hr, if_true]
  · simp only [hr, if_false]
    rfl

theorem delete_eq (key : ObjectKey) :
    s.delete K key =
      if (.delete, key.name) ∈ s.rejections then
        .error (.rejected .delete (ManagedObject.kind K) key)
      else .ok { s with objects := s.objects.erase (.of K key) } := by
  rw [delete, check_eq]
  split <;> rfl

theorem get_eq (key : ObjectKey) :
    s.get K key =
      if (.get, key.name) ∈ s.rejections then .error (.rejected .get (ManagedObject.kind K) key)
      else (s.objects.get? (.of K key)).elim (.ok none) fun json => (decode K json).map some := by
  rw [get, check_eq]
  split
  · rfl
  · cases s.objects.get? (.of K key) with
    | none => rfl
    | some json =>
        change (decode K json >>= fun object => pure (some object)) = (decode K json).map some
        cases decode K json <;> rfl

/-! ## Calls -/

theorem calls_insert_apply (h : key? object = some key) :
    attempt (·.insert object) s = (.ok (stampedAs s.nextStamp true object), (s.write true key object).2) := by
  simp only [attempt, s.insert_eq h]
  rfl

theorem calls_create_apply (h : key? object = some key) :
    (calls K).create object s =
      if (.create, key.name) ∈ s.rejections then
        (.error (.rejected .create (ManagedObject.kind K) key), s)
      else if (s.objects.get? (.of K key)).isSome then
        (.error (.alreadyExists (ManagedObject.kind K) key), s)
      else (.ok (stampedAs s.nextStamp true object), (s.write true key object).2) := by
  simp only [calls, attempt, s.create_eq h]
  by_cases hr : (.create, key.name) ∈ s.rejections
  · simp only [hr, if_true]
  · by_cases ho : (s.objects.get? (.of K key)).isSome = true
    · simp only [hr, ho, if_false, if_true]
    · simp only [hr, ho, if_false]
      rfl

theorem calls_update_apply (h : key? object = some key) :
    (calls K).update object s =
      if (.update, key.name) ∈ s.rejections then
        (.error (.rejected .update (ManagedObject.kind K) key), s)
      else if (s.objects.get? (.of K key)).isSome then
        (.ok (stampedAs s.nextStamp false object), (s.write false key object).2)
      else (.error (.notFound (ManagedObject.kind K) key), s) := by
  simp only [calls, attempt, s.update_eq h]
  by_cases hr : (.update, key.name) ∈ s.rejections
  · simp only [hr, if_true]
  · by_cases ho : (s.objects.get? (.of K key)).isSome = true
    · simp only [hr, ho, if_false, if_true]
      rfl
    · simp only [hr, ho, if_false]
      rfl

theorem calls_delete_apply (key : ObjectKey) :
    (calls K).delete key s =
      if (.delete, key.name) ∈ s.rejections then
        (.error (.rejected .delete (ManagedObject.kind K) key), s)
      else (.ok (), { s with objects := s.objects.erase (.of K key) }) := by
  simp only [calls, attempt, s.delete_eq]
  by_cases hr : (.delete, key.name) ∈ s.rejections <;> simp only [hr, if_true, if_false, Except.map]

/-- Nothing is stored that has no key. -/
theorem calls_keyless (h : key? object = none) :
    attempt (·.insert object) s = (.error (.missingKey (ManagedObject.kind K)), s) ∧
      (calls K).create object s = (.error (.missingKey (ManagedObject.kind K)), s) ∧
        (calls K).update object s = (.error (.missingKey (ManagedObject.kind K)), s) := by
  have hkeyless : requireKey object = .error (.missingKey (ManagedObject.kind K)) := by
    rw [requireKey_eq, h]
    rfl
  simp only [attempt, calls, insert, create, update, hkeyless]
  exact ⟨rfl, rfl, rfl⟩

end SlotStore

/-! ## Slots in order -/

theorem ObjectKey.not_lt_of_lt {k l : ObjectKey} (h : compare k l = .lt) : compare l k ≠ .lt := by
  rw [Std.OrientedCmp.gt_iff_lt.2 h]
  nofun

/-- Slots of one kind's name are in the order of their keys. -/
theorem Slot.compare_key {a b : Slot} (hkind : a.kind = b.kind) (h : compare a b = .lt) :
    compare a.key b.key = .lt := by
  have h : (compare a.kind b.kind).then (compare a.key b.key) = .lt := h
  rwa [hkind, Std.ReflOrd.compare_self, Ordering.then] at h

/-- Lists of keys in order are the same if the same keys are on them. -/
theorem ObjectKey.eq_of_sorted {keys keys' : List ObjectKey}
    (h : keys.Pairwise fun k l => compare k l = .lt) (h' : keys'.Pairwise fun k l => compare k l = .lt)
    (hmem : ∀ key, key ∈ keys ↔ key ∈ keys') : keys = keys' := by
  have hirrefl : Std.Irrefl fun k l : ObjectKey => compare k l = .lt :=
    ⟨fun _ hlt => not_lt_of_lt hlt hlt⟩
  have hantisymm : Std.Antisymm fun k l : ObjectKey => compare k l = .lt :=
    ⟨fun _ _ hlt hlt' => absurd hlt' (not_lt_of_lt hlt)⟩
  exact h.eq_of_mem_iff h' hmem

namespace SlotStore

variable (s : SlotStore) (K : Type) [ManagedObject K]

/-- What lies in the slots of a kind's name and a namespace, with the keys in order. -/
def entriesIn (ns : String) : List (ObjectKey × Json) :=
  (s.objects.toList.filter fun e => e.1.kind == ManagedObject.kind K && e.1.key.ns == ns).map
    fun e => (e.1.key, e.2)

theorem list_eq (ns : String) (selector : StringMap) :
    s.list K ns selector = ((s.entriesIn K ns).mapM fun e => decode K e.2).map fun objects =>
      objects.filter fun object => Selector.accepts selector (ManagedObject.metadata object).labels := by
  have hraw : s.raw K ns = (s.entriesIn K ns).map (·.2) := by
    rw [raw, entriesIn, List.map_map]
    rfl
  rw [list, hraw, List.mapM_map]
  change ((s.entriesIn K ns).mapM fun e => decode K e.2) >>= _ = _
  cases (s.entriesIn K ns).mapM fun e => decode K e.2 <;> rfl

variable {K}

theorem mem_entriesIn {ns : String} {key : ObjectKey} {json : Json} :
    (key, json) ∈ s.entriesIn K ns ↔ key.ns = ns ∧ s.objects.get? (.of K key) = some json := by
  simp only [entriesIn, List.mem_map, List.mem_filter, Bool.and_eq_true, beq_iff_eq, Prod.mk.injEq]
  constructor
  · rintro ⟨⟨⟨kind, key⟩, json⟩, ⟨hmem, rfl, rfl⟩, rfl, rfl⟩
    exact ⟨rfl, OrdMap.mem_toList.1 hmem⟩
  · rintro ⟨hns, hget⟩
    exact ⟨(.of K key, json), ⟨OrdMap.mem_toList.2 hget, rfl, hns⟩, rfl, rfl⟩

variable (K)

theorem pairwise_entriesIn (ns : String) :
    (s.entriesIn K ns).Pairwise fun e f => compare e.1 f.1 = .lt := by
  refine List.pairwise_map.2 (List.Pairwise.imp_of_mem ?_ (s.objects.sorted.filter _))
  intro e f he hf hlt
  rw [List.mem_filter, Bool.and_eq_true, beq_iff_eq] at he hf
  exact Slot.compare_key (he.2.1.trans hf.2.1.symm) hlt

/-- The keys of a kind's name in order. -/
def keysOf : List ObjectKey :=
  (s.objects.keys.filter fun slot => slot.kind == ManagedObject.kind K).map (·.key)

theorem names_eq : s.names K = (s.keysOf K).map (·.name) := by
  rw [names, keysOf, List.map_map]
  rfl

theorem mem_keysOf {key : ObjectKey} :
    key ∈ s.keysOf K ↔ (s.objects.get? (.of K key)).isSome = true := by
  simp only [keysOf, List.mem_map, List.mem_filter, OrdMap.mem_keys, beq_iff_eq]
  constructor
  · rintro ⟨⟨kind, key⟩, ⟨hheld, rfl⟩, rfl⟩
    exact hheld
  · intro hheld
    exact ⟨.of K key, ⟨hheld, rfl⟩, rfl⟩

theorem pairwise_keysOf : (s.keysOf K).Pairwise fun k l => compare k l = .lt := by
  have hsorted : s.objects.keys.Pairwise fun a b => compare a b = .lt :=
    List.pairwise_map.2 s.objects.sorted
  refine List.pairwise_map.2 (List.Pairwise.imp_of_mem ?_ (hsorted.filter _))
  intro a b ha hb hlt
  rw [List.mem_filter, beq_iff_eq] at ha hb
  exact Slot.compare_key (ha.2.trans hb.2.symm) hlt

end SlotStore

/-- Where nothing fails, decoding a list answers what each of its elements is. -/
theorem mapM_eq_ok {α β ε : Type} {f : α → Except ε β} {l : List α}
    (h : ∀ a ∈ l, ∃ b, f a = .ok b) : l.mapM f = .ok (l.filterMap fun a => (f a).toOption) := by
  induction l with
  | nil => rfl
  | cons a l ih =>
      obtain ⟨b, hb⟩ := h a List.mem_cons_self
      rw [List.mapM_cons, ih fun a' ha' => h a' (List.mem_cons_of_mem _ ha'), hb,
        List.filterMap_cons_some (by rw [hb]; rfl)]
      rfl

/-! ## Lists of objects in order -/

/-- The metadata carry every label of the selector. -/
def ObjectMeta.Carries (m : ObjectMeta) (selector : StringMap) : Prop :=
  ∀ label value, selector.get? label = some value → m.label? label = some value

section Lists

variable {K : Type} [ManagedObject K]

/-- The object has the smaller key. -/
def KeyBefore (a b : K) : Prop :=
  ∃ k l, key? a = some k ∧ key? b = some l ∧ compare k l = .lt

theorem not_keyBefore_of_keyBefore {a b : K} (h : KeyBefore a b) : ¬KeyBefore b a := by
  rintro ⟨l', k', hl', hk', hlt'⟩
  obtain ⟨k, l, hk, hl, hlt⟩ := h
  obtain rfl := Option.some.inj (hk.symm.trans hk')
  obtain rfl := Option.some.inj (hl.symm.trans hl')
  exact ObjectKey.not_lt_of_lt hlt hlt'

instance : Std.Irrefl (KeyBefore (K := K)) := ⟨fun _ h => not_keyBefore_of_keyBefore h h⟩

instance : Std.Antisymm (KeyBefore (K := K)) :=
  ⟨fun _ _ h h' => absurd h' (not_keyBefore_of_keyBefore h)⟩

/-- Whatever lies in the slots of the kind's name is read as an object of this kind that names the slot's
key. -/
def SlotStore.Reads (K : Type) [ManagedObject K] (s : SlotStore) : Prop :=
  ∀ key json, s.objects.get? (.of K key) = some json →
    ∃ object : K, ManagedObject.ofDocument? json = some object ∧ key? object = some key

/-- Where everything is read, a list is all that is read in the namespace under the labels of the selector,
key by key. -/
theorem SlotStore.Reads.list {s : SlotStore} (h : s.Reads K) (ns : String) (selector : StringMap) :
    ∃ objects : List K, s.list K ns selector = .ok objects ∧ objects.Pairwise KeyBefore ∧
      ∀ object, object ∈ objects ↔ ∃ key, s.fetch? K key = some object ∧ key.ns = ns ∧
        (metadata object).Carries selector := by
  have hdecoded : ∀ e ∈ s.entriesIn K ns, ∃ object : K,
      decode K e.2 = .ok object ∧ key? object = some e.1 := by
    intro e he
    obtain ⟨object, hread, hkey⟩ := h e.1 e.2 ((s.mem_entriesIn).1 he).2
    exact ⟨object, by rw [decode, hread], hkey⟩
  have hall : ∀ e ∈ s.entriesIn K ns, ∃ object, decode K e.2 = .ok object := by
    intro e he
    obtain ⟨object, hread, -⟩ := hdecoded e he
    exact ⟨object, hread⟩
  refine ⟨_, by rw [list_eq, mapM_eq_ok hall]; rfl, ?_, ?_⟩
  · refine List.Pairwise.filter _ (List.pairwise_filterMap.2 ?_)
    refine (s.pairwise_entriesIn K ns).imp_of_mem ?_
    intro e f he hf hlt a ha b hb
    obtain ⟨object, hread, hkey⟩ := hdecoded e he
    obtain ⟨object', hread', hkey'⟩ := hdecoded f hf
    rw [hread] at ha
    rw [hread'] at hb
    obtain rfl := Option.some.inj ha
    obtain rfl := Option.some.inj hb
    exact ⟨e.1, f.1, hkey, hkey', hlt⟩
  · intro object
    rw [List.mem_filter, List.mem_filterMap, Selector.accepts_iff]
    constructor
    · rintro ⟨⟨⟨key, json⟩, hmem, hobject⟩, hcarries⟩
      obtain ⟨hns, hget⟩ := (s.mem_entriesIn).1 hmem
      obtain ⟨object', hread, -⟩ := h key json hget
      rw [decode, hread] at hobject
      obtain rfl := Option.some.inj hobject
      exact ⟨key, by rw [fetch?, hget, Option.bind_some, hread], hns, hcarries⟩
    · rintro ⟨key, hfetch, hns, hcarries⟩
      obtain ⟨json, hget, hread⟩ := Option.bind_eq_some_iff.1 hfetch
      refine ⟨⟨(key, json), (s.mem_entriesIn).2 ⟨hns, hget⟩, ?_⟩, hcarries⟩
      rw [decode, hread]
      rfl

end Lists

end TabletFleet
