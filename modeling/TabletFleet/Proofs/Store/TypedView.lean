import TabletFleet.Proofs.KeyedStore
import TabletFleet.Proofs.Reconcile.Listing

set_option autoImplicit false

/-! # The typed view of a store of slots

A memory store keeps the objects of three kinds in a table for each, as they are once they were written and
read. It is what a store of slots looks like to calls on these kinds: where all that is written can be read
back, the same calls are answered alike by both, whatever was called before. -/

namespace TabletFleet

open ManagedObject (key? metadata)
open StateRun

/-! ## The kinds of a memory store -/

/-- The kinds that a memory store has tables for. -/
inductive StoredKind where
  | pod
  | claim
  | configMap

namespace StoredKind

def Object : StoredKind → Type
  | pod => Pod
  | claim => Claim
  | configMap => ConfigMap

instance : ∀ kind : StoredKind, Stored kind.Object
  | pod => inferInstanceAs (Stored Pod)
  | claim => inferInstanceAs (Stored Claim)
  | configMap => inferInstanceAs (Stored ConfigMap)

/-- The kinds go by different names. -/
theorem kind_inj {kind kind' : StoredKind}
    (h : ManagedObject.kind kind.Object = ManagedObject.kind kind'.Object) : kind = kind' := by
  cases kind <;> cases kind' <;> first | rfl | exact absurd h (by decide)

theorem slot_inj {kind kind' : StoredKind} {key key' : ObjectKey}
    (h : Slot.of kind.Object key = Slot.of kind'.Object key') : kind = kind' ∧ key = key' := by
  obtain ⟨hkind, hkey⟩ := Slot.mk.inj h
  exact ⟨kind_inj hkind, hkey⟩

/-- The tables are independent of each other. -/
theorem fetch?_setTable_of_ne {kind kind' : StoredKind} (h : kind' ≠ kind) (table : Table kind.Object)
    (t : MemoryStore) (key : ObjectKey) :
    (Stored.setTable table t).fetch? kind'.Object key = t.fetch? kind'.Object key := by
  cases kind <;> cases kind' <;> first | rfl | exact absurd rfl h

/-- All parts of the object are readable, as they are if it was read from a document. -/
def Readable : (kind : StoredKind) → kind.Object → Prop
  | pod, object => Pod.Readable object
  | claim, object => Claim.Readable object
  | configMap, object => ConfigMap.Readable object

theorem readable_of_ofDocument? {δ : Type} [Document δ] [Document.TellsNull δ] {d : δ}
    {kind : StoredKind} {object : kind.Object} (h : ManagedObject.ofDocument? d = some object) :
    kind.Readable object := by
  cases kind with
  | pod => exact Pod.readable_of_ofDocument? h
  | claim => exact Claim.readable_of_ofDocument? h
  | configMap => exact ConfigMap.readable_of_ofDocument? h

/-- Stamps are texts, which are always read back. -/
theorem Readable.readsBack {kind : StoredKind} {object : kind.Object} (h : kind.Readable object)
    (stamp : Stamp) (isNew : Bool) : ReadsBack (stampedAs stamp isNew object) := by
  cases kind with
  | pod => exact Pod.readsBack ⟨⟨h.metadata.extra, h.metadata.deletion⟩, h.spec, h.status⟩
  | claim => exact Claim.readsBack ⟨⟨h.metadata.extra, h.metadata.deletion⟩, h.spec, h.status⟩
  | configMap => exact ConfigMap.readsBack ⟨⟨h.metadata.extra, h.metadata.deletion⟩, h.extra⟩

end StoredKind

/-! ## Lists -/

section Tables

variable {K : Type} [ManagedObject K]

theorem Table.mem_select {t : Table K} {ns : String} {selector : StringMap} {object : K} :
    object ∈ t.select ns selector ↔
      ∃ key, t.get? key = some object ∧ key.ns = ns ∧ (metadata object).Carries selector := by
  have hmem : object ∈ t.objects ↔ ∃ key, t.get? key = some object := by
    rw [objects, OrdMap.values, List.mem_map]
    constructor
    · rintro ⟨⟨key, object⟩, he, rfl⟩
      exact ⟨key, OrdMap.mem_toList.1 he⟩
    · rintro ⟨key, hget⟩
      exact ⟨(key, object), OrdMap.mem_toList.2 hget, rfl⟩
  have hcarries : (metadata object).Carries selector ↔
      Selector.accepts selector (metadata object).labels = true := Selector.accepts_iff.symm
  rw [select, List.mem_filter, hmem, hcarries]
  constructor
  · rintro ⟨⟨key, hget⟩, hlisted⟩
    exact ⟨key, hget, (isListed_iff (t.keyed hget)).1 hlisted⟩
  · rintro ⟨key, hget, hlisted⟩
    exact ⟨⟨key, hget⟩, (isListed_iff (t.keyed hget)).2 hlisted⟩

theorem Table.pairwise_select (t : Table K) (ns : String) (selector : StringMap) :
    (t.select ns selector).Pairwise KeyBefore := by
  refine List.Pairwise.filter _ (List.pairwise_map.2 ?_)
  refine List.Pairwise.imp_of_mem ?_ t.entries.sorted
  intro e f he hf hlt
  exact ⟨e.1, f.1, t.keyed (OrdMap.mem_toList.1 he), t.keyed (OrdMap.mem_toList.1 hf), hlt⟩

end Tables

/-! ## Views -/

/-- The tables of the memory store hold what is read in the slots. -/
structure MemoryStore.Views (t : MemoryStore) (s : SlotStore) : Prop where
  rejections : t.rejections = s.rejections
  revision : t.revision = s.revision
  newUid : t.newUid = s.newUid
  reads : ∀ kind : StoredKind, s.Reads kind.Object
  fetch : ∀ (kind : StoredKind) (key : ObjectKey),
    s.fetch? kind.Object key = t.fetch? kind.Object key

namespace MemoryStore.Views

variable {t : MemoryStore} {s : SlotStore} {kind : StoredKind} {key : ObjectKey}

theorem empty (newUid : Nat → String) : (MemoryStore.empty newUid).Views (.empty newUid) where
  rejections := rfl
  revision := rfl
  newUid := rfl
  reads _ _ _ h := nomatch h
  fetch kind key := by cases kind <;> rfl

theorem nextStamp (h : t.Views s) : t.nextStamp = s.nextStamp := by
  rw [MemoryStore.nextStamp, SlotStore.nextStamp, h.revision, h.newUid]

theorem rejects_iff (h : t.Views s) (verb : Verb) (name : String) :
    t.rejects verb name = true ↔ (verb, name) ∈ s.rejections := by
  rw [rejects, h.rejections, List.contains_iff_mem]

theorem isSome_fetch? (h : t.Views s) (kind : StoredKind) (key : ObjectKey) :
    (s.objects.get? (.of kind.Object key)).isSome = (t.fetch? kind.Object key).isSome := by
  rw [← h.fetch, SlotStore.fetch?]
  cases hget : s.objects.get? (.of kind.Object key) with
  | none => rfl
  | some json =>
      obtain ⟨object, hread, -⟩ := h.reads kind key json hget
      rw [Option.bind_some, hread]
      rfl

/-- Writing the same object keeps the view, if the object can be read back. -/
theorem write (h : t.Views s) (isNew : Bool) {object : kind.Object} (hkey : key? object = some key)
    (hreads : ReadsBack (stampedAs t.nextStamp isNew object)) :
    (t.write isNew key object hkey).2.Views (s.write isNew key object).2 := by
  have hget : ∀ slot, (s.write isNew key object).2.objects.get? slot
      = if slot = .of kind.Object key then
          some (ManagedObject.toJson (stampedAs t.nextStamp isNew object))
        else s.objects.get? slot := by
    rw [h.nextStamp]
    exact fun slot => OrdMap.get?_insert ..
  refine ⟨?_, ?_, ?_, ?_, ?_⟩
  · exact (Stored.rejections_setTable ..).trans h.rejections
  · exact (Stored.revision_setTable ..).trans (congrArg (· + 1) h.revision)
  · exact (Stored.newUid_setTable ..).trans h.newUid
  · intro kind' key' json hjson
    rw [hget] at hjson
    split at hjson
    · next hslot =>
        obtain ⟨rfl, rfl⟩ := StoredKind.slot_inj hslot
        obtain rfl := Option.some.inj hjson
        exact ⟨_, hreads, (key?_storedAs ..).trans hkey⟩
    · exact h.reads kind' key' json hjson
  · intro kind' key'
    rw [SlotStore.fetch?, hget]
    split
    · next hslot =>
        obtain ⟨rfl, rfl⟩ := StoredKind.slot_inj hslot
        rw [Option.bind_some, hreads, fetch?_write, if_pos rfl]
        rfl
    · next hslot =>
        rw [← SlotStore.fetch?, h.fetch]
        by_cases hkind : kind' = kind
        · subst hkind
          have hne : key' ≠ key := fun heq => hslot (heq ▸ rfl)
          rw [fetch?_write, if_neg hne]
        · refine ((StoredKind.fetch?_setTable_of_ne hkind _ _ key').trans ?_).symm
          rw [fetch?, Stored.table_with, fetch?]

theorem erase (h : t.Views s) (kind : StoredKind) (key : ObjectKey) :
    (Stored.setTable ((Stored.table (K := kind.Object) t).erase key) t).Views
      { s with objects := s.objects.erase (.of kind.Object key) } where
  rejections := (Stored.rejections_setTable ..).trans h.rejections
  revision := (Stored.revision_setTable ..).trans h.revision
  newUid := (Stored.newUid_setTable ..).trans h.newUid
  reads kind' key' json hjson := by
    rw [OrdMap.get?_erase] at hjson
    split at hjson
    · cases hjson
    · exact h.reads kind' key' json hjson
  fetch kind' key' := by
    rw [SlotStore.fetch?, OrdMap.get?_erase]
    split
    · next hslot =>
        obtain ⟨rfl, rfl⟩ := StoredKind.slot_inj hslot
        rw [fetch?, Stored.table_setTable, Table.get?_erase, if_pos rfl]
        rfl
    · next hslot =>
        rw [← SlotStore.fetch?, h.fetch]
        by_cases hkind : kind' = kind
        · subst hkind
          have hne : key' ≠ key := fun heq => hslot (heq ▸ rfl)
          rw [fetch?, fetch?, Stored.table_setTable, Table.get?_erase, if_neg hne]
        · exact (StoredKind.fetch?_setTable_of_ne hkind _ t key').symm

/-- Both are told alike what to reject. -/
theorem with_rejections (h : t.Views s) {r r' : Rejections} (hr : r = r') :
    ({ t with rejections := r } : MemoryStore).Views { s with rejections := r' } where
  rejections := hr
  revision := h.revision
  newUid := h.newUid
  reads := h.reads
  fetch kind key := by
    have htable : Stored.table (K := kind.Object) { t with rejections := r } = Stored.table t :=
      Stored.table_with ..
    rw [MemoryStore.fetch?, htable]
    exact h.fetch kind key

/-! ## Reading -/

theorem get_eq (h : t.Views s) (kind : StoredKind) (key : ObjectKey) :
    s.get kind.Object key = t.get kind.Object key := by
  rw [SlotStore.get_eq, MemoryStore.get, rejection?_eq]
  simp only [h.rejects_iff]
  split
  · rfl
  · rw [← h.fetch, SlotStore.fetch?]
    cases hget : s.objects.get? (.of kind.Object key) with
    | none => rfl
    | some json =>
        obtain ⟨object, hread, -⟩ := h.reads kind key json hget
        rw [Option.elim_some, Option.bind_some, SlotStore.decode, hread]
        rfl

theorem list_eq (h : t.Views s) (kind : StoredKind) (ns : String) (selector : StringMap) :
    s.list kind.Object ns selector = .ok (t.list kind.Object ns selector) := by
  obtain ⟨objects, hlist, hsorted, hmem⟩ := (h.reads kind).list ns selector
  have hsame : objects = t.list kind.Object ns selector := by
    refine hsorted.eq_of_mem_iff (Table.pairwise_select ..) fun object => ?_
    rw [hmem, MemoryStore.list, Table.mem_select]
    simp only [h.fetch]
    rfl
  rw [hlist, hsame]

theorem names_eq (h : t.Views s) (kind : StoredKind) : s.names kind.Object = t.names kind.Object := by
  rw [SlotStore.names_eq, MemoryStore.names]
  refine congrArg _ (ObjectKey.eq_of_sorted (s.pairwise_keysOf _) ?_ fun key => ?_)
  · exact List.pairwise_map.2 (Stored.table (K := kind.Object) t).entries.sorted
  · rw [SlotStore.mem_keysOf, h.isSome_fetch?]
    exact OrdMap.mem_keys.symm

end MemoryStore.Views

/-! ## Calls -/

namespace MemoryStore

section Keys

variable {K : Type} [Stored K] (t : MemoryStore) {key : ObjectKey} {object : K}

theorem calls_insert_apply (h : key? object = some key) :
    attempt (·.insert object) t = (.ok (t.write true key object h).1, (t.write true key object h).2) := by
  have hinsert : t.insert object = .ok (t.write true key object h) := by
    unfold insert
    split
    · next hnone => cases hnone.symm.trans h
    · next key' hkey =>
        obtain rfl := Option.some.inj (hkey.symm.trans h)
        rfl
  simp only [attempt, hinsert]

/-- Nothing is stored that has no key. -/
theorem calls_keyless (h : key? object = none) :
    attempt (·.insert object) t = (.error (.missingKey (ManagedObject.kind K)), t) ∧
      (calls K).create object t = (.error (.missingKey (ManagedObject.kind K)), t) ∧
        (calls K).update object t = (.error (.missingKey (ManagedObject.kind K)), t) := by
  have hinsert : t.insert object = .error (.missingKey (ManagedObject.kind K)) := by
    unfold insert
    split
    · rfl
    · next hkey => cases h.symm.trans hkey
  have hcreate : t.create object = .error (.missingKey (ManagedObject.kind K)) := by
    unfold create
    split
    · rfl
    · next hkey => cases h.symm.trans hkey
  have hupdate : t.update object = .error (.missingKey (ManagedObject.kind K)) := by
    unfold update
    split
    · rfl
    · next hkey => cases h.symm.trans hkey
  simp only [attempt, calls, hinsert, hcreate, hupdate, and_self]

end Keys

namespace Views

variable {kind : StoredKind} {object : kind.Object}

theorem insert_related (h : kind.Readable object) :
    Related Views Eq (attempt (·.insert object)) (SlotStore.attempt (·.insert object)) := by
  intro t s hs
  cases hkey : key? object with
  | none =>
      rw [(t.calls_keyless hkey).1, (s.calls_keyless hkey).1]
      exact ⟨rfl, hs⟩
  | some key =>
      rw [t.calls_insert_apply hkey, s.calls_insert_apply hkey, ← hs.nextStamp]
      exact ⟨rfl, hs.write true hkey (h.readsBack _ _)⟩

theorem create_related (h : kind.Readable object) :
    Related Views Eq ((calls kind.Object).create object)
      ((SlotStore.calls kind.Object).create object) := by
  intro t s hs
  cases hkey : key? object with
  | none =>
      rw [(t.calls_keyless hkey).2.1, (s.calls_keyless hkey).2.1]
      exact ⟨rfl, hs⟩
  | some key =>
      rw [calls_create_apply t key object hkey, s.calls_create_apply hkey, ← hs.nextStamp]
      simp only [hs.rejects_iff, hs.isSome_fetch?]
      split
      · exact ⟨rfl, hs⟩
      · split
        · exact ⟨rfl, hs⟩
        · exact ⟨rfl, hs.write true hkey (h.readsBack _ _)⟩

theorem update_related (h : kind.Readable object) :
    Related Views Eq ((calls kind.Object).update object)
      ((SlotStore.calls kind.Object).update object) := by
  intro t s hs
  cases hkey : key? object with
  | none =>
      rw [(t.calls_keyless hkey).2.2, (s.calls_keyless hkey).2.2]
      exact ⟨rfl, hs⟩
  | some key =>
      rw [calls_update_apply t key object hkey, s.calls_update_apply hkey, ← hs.nextStamp]
      simp only [hs.rejects_iff, hs.isSome_fetch?]
      split
      · exact ⟨rfl, hs⟩
      · split
        · exact ⟨rfl, hs.write false hkey (h.readsBack _ _)⟩
        · exact ⟨rfl, hs⟩

theorem delete_related (kind : StoredKind) (key : ObjectKey) :
    Related Views Eq ((calls kind.Object).delete key) ((SlotStore.calls kind.Object).delete key) := by
  intro t s hs
  rw [calls_delete_apply, s.calls_delete_apply]
  simp only [hs.rejects_iff]
  split
  · exact ⟨rfl, hs⟩
  · exact ⟨rfl, hs.erase kind key⟩

theorem get_related (kind : StoredKind) (key : ObjectKey) :
    Related Views Eq ((calls kind.Object).get key) ((SlotStore.calls kind.Object).get key) :=
  fun _ _ hs => ⟨(hs.get_eq kind key).symm, hs⟩

theorem list_related (kind : StoredKind) (ns : String) (selector : StringMap) :
    Related Views Eq ((calls kind.Object).list ns selector)
      ((SlotStore.calls kind.Object).list ns selector) :=
  fun _ _ hs => ⟨(hs.list_eq kind ns selector).symm, hs⟩

end Views

end MemoryStore

/-! ## Histories of calls -/

namespace StoreCall

/-- A call on the tables, with its answer put into words. -/
def sayingTyped {α : Type} (reply : α → Reply StoredKind.Object)
    (call : StateM MemoryStore (Except StoreError α)) :
    StateM MemoryStore (Except StoreError (Reply StoredKind.Object)) :=
  fun t => ((call t).1.map reply, (call t).2)

/-- The call on the typed view. -/
def runTyped : StoreCall StoredKind.Object →
    StateM MemoryStore (Except StoreError (Reply StoredKind.Object))
  | insert _ object => sayingTyped (fun _ => .done) (MemoryStore.attempt (·.insert object))
  | create kind object =>
    sayingTyped (.stored kind) ((MemoryStore.calls kind.Object).create object)
  | update kind object =>
    sayingTyped (.stored kind) ((MemoryStore.calls kind.Object).update object)
  | delete kind key => sayingTyped (fun _ => .done) ((MemoryStore.calls kind.Object).delete key)
  | get kind key => sayingTyped (.found kind) ((MemoryStore.calls kind.Object).get key)
  | list kind ns selector =>
    sayingTyped (.listed kind) ((MemoryStore.calls kind.Object).list ns selector)
  | names kind => fun t => (.ok (.named (t.names kind.Object)), t)
  | reject verb name => fun t => (.ok .done, t.reject verb name)
  | allow verb name => fun t => (.ok .done, t.allow verb name)

/-- The same call put into the same words. -/
theorem saying_related {α : Type} (reply : α → Reply StoredKind.Object)
    {call : StateM MemoryStore (Except StoreError α)} {call' : StateM SlotStore (Except StoreError α)}
    (h : Related MemoryStore.Views Eq call call') :
    Related MemoryStore.Views Eq (sayingTyped reply call) (saying reply call') := by
  intro t s hs
  obtain ⟨hanswer, hviews⟩ := h t s hs
  exact ⟨congrArg (Except.map reply) hanswer, hviews⟩

/-- The step lemma: the same call on a store and on its view. -/
theorem runTyped_related (c : StoreCall StoredKind.Object)
    (hreads : ∀ d, c.draft? = some d → d.kind.Readable d.object) :
    Related MemoryStore.Views Eq c.runTyped c.run := by
  cases c with
  | insert kind object => exact saying_related _ (MemoryStore.Views.insert_related (hreads _ rfl))
  | create kind object => exact saying_related _ (MemoryStore.Views.create_related (hreads _ rfl))
  | update kind object => exact saying_related _ (MemoryStore.Views.update_related (hreads _ rfl))
  | delete kind key => exact saying_related _ (MemoryStore.Views.delete_related kind key)
  | get kind key => exact saying_related _ (MemoryStore.Views.get_related kind key)
  | list kind ns selector => exact saying_related _ (MemoryStore.Views.list_related kind ns selector)
  | names kind =>
      intro t s hs
      have hanswer : (.ok (.named (t.names kind.Object)) : Except StoreError (Reply StoredKind.Object))
          = .ok (.named (s.names kind.Object)) := by rw [hs.names_eq]
      exact ⟨hanswer, hs⟩
  | reject verb name =>
      exact fun t s hs => ⟨rfl, hs.with_rejections (congrArg (·.reject verb name) hs.rejections)⟩
  | allow verb name =>
      exact fun t s hs => ⟨rfl, hs.with_rejections (congrArg (·.allow verb name) hs.rejections)⟩

/-- Nothing fails to decode in a store of these kinds, if what is stored has readable parts. -/
theorem legible_of_readable {calls : List (StoreCall StoredKind.Object)}
    (hreads : ∀ c ∈ calls, ∀ d, c.draft? = some d → d.kind.Readable d.object) (kind : StoredKind) :
    Legible calls kind :=
  legible_of_distinct (fun _ _ h => StoredKind.kind_inj h)
    (fun c hc d hdraft stamp => (hreads c hc d hdraft).readsBack stamp d.isNew) kind

/-- The typed view after the calls, which start with an empty one. -/
def afterTyped (newUid : Nat → String) (calls : List (StoreCall StoredKind.Object)) : MemoryStore :=
  calls.foldl (fun t c => (c.runTyped t).2) (.empty newUid)

/-- The run lemma: a memory store answers as the store of slots does that was asked the same. -/
theorem typed_answers (newUid : Nat → String) (calls : List (StoreCall StoredKind.Object))
    (hreads : ∀ c ∈ calls, ∀ d, c.draft? = some d → d.kind.Readable d.object) :
    (afterTyped newUid calls).Views (after newUid calls) ∧
      ∀ c, (∀ d, c.draft? = some d → d.kind.Readable d.object) →
        (c.runTyped (afterTyped newUid calls)).1 = answer newUid calls c := by
  have hviews : (afterTyped newUid calls).Views (after newUid calls) := by
    induction calls using List.reverseRecOn with
    | nil => exact .empty newUid
    | append_singleton calls c ih =>
        have hbefore := ih fun c' hc' => hreads c' (List.mem_append_left _ hc')
        rw [afterTyped, List.foldl_append, after_append]
        have hlast := hreads c (List.mem_append_right _ List.mem_cons_self)
        exact (runTyped_related c hlast _ _ hbefore).2
  exact ⟨hviews, fun c hc => (runTyped_related c hc _ _ hviews).1⟩

end StoreCall

end TabletFleet
