import TabletFleet.Labels
import TabletFleet.Store.Basic

set_option autoImplicit false

/-! # Tables of objects

Objects of one kind by their keys. Every object lies at the key that its own metadata names, and in
written form, so that what is looked up is what a reader of the written object would see. Both are
fields of the type; `Table.put` and `Table.erase` are the only changes. -/

namespace TabletFleet

/-- Objects of kind `K`, in the order of their keys. -/
structure Table (K : Type) [ManagedObject K] where
  entries : OrdMap ObjectKey K
  keyed : ∀ {key : ObjectKey} {object : K},
    entries.get? key = some object → ManagedObject.key? object = some key
  written : ∀ {key : ObjectKey} {object : K},
    entries.get? key = some object → ManagedObject.written object = object

namespace Table

variable {K : Type} [ManagedObject K]

instance [DecidableEq K] : DecidableEq (Table K) := fun a b =>
  decidable_of_iff (a.entries = b.entries) ⟨fun h => by cases a; cases b; simp_all, fun h => h ▸ rfl⟩

/-- The table without objects. -/
def empty : Table K where
  entries := .empty
  keyed h := by simp at h
  written h := by simp at h

instance : Inhabited (Table K) := ⟨empty⟩

/-- The object at a key. -/
def get? (t : Table K) (key : ObjectKey) : Option K := t.entries.get? key

/-- All objects, in the order of their keys. -/
def objects (t : Table K) : List K := t.entries.values

/-- All keys in their order. -/
def keys (t : Table K) : List ObjectKey := t.entries.keys

/-- Put an object at its key, over one that is there. -/
def put (t : Table K) (key : ObjectKey) (object : K) (h : ManagedObject.key? object = some key) :
    Table K where
  entries := t.entries.insert key (ManagedObject.written object)
  keyed {k o} hk := by
    rw [OrdMap.get?_insert] at hk
    split at hk
    · next e => obtain rfl := Option.some.inj hk; rw [e, ManagedObject.key?_written, h]
    · exact t.keyed hk
  written {k o} hk := by
    rw [OrdMap.get?_insert] at hk
    split at hk
    · obtain rfl := Option.some.inj hk; exact ManagedObject.written_written object
    · exact t.written hk

/-- Take the object at a key out. -/
def erase (t : Table K) (key : ObjectKey) : Table K where
  entries := t.entries.erase key
  keyed {k o} hk := by
    rw [OrdMap.get?_erase] at hk
    split at hk
    · cases hk
    · exact t.keyed hk
  written {k o} hk := by
    rw [OrdMap.get?_erase] at hk
    split at hk
    · cases hk
    · exact t.written hk

/-- The objects of a namespace that carry every label of the selector. -/
def select (t : Table K) (ns : String) (selector : StringMap) : List K :=
  t.objects.filter fun object =>
    (ManagedObject.metadata object).ns == some ns
      && Selector.accepts selector (ManagedObject.metadata object).labels

@[simp] theorem get?_empty (key : ObjectKey) : (empty : Table K).get? key = none := rfl

@[simp] theorem get?_put (t : Table K) (key key' : ObjectKey) (object : K)
    (h : ManagedObject.key? object = some key) :
    (t.put key object h).get? key'
      = if key' = key then some (ManagedObject.written object) else t.get? key' := by
  simp [put, get?]

@[simp] theorem get?_erase (t : Table K) (key key' : ObjectKey) :
    (t.erase key).get? key' = if key' = key then none else t.get? key' := by
  simp [erase, get?]

/-- Tables with equal lookups are equal. -/
theorem ext_get? {t t' : Table K} (h : ∀ key, t.get? key = t'.get? key) : t = t' := by
  have : t.entries = t'.entries := OrdMap.ext_get? h
  cases t; cases t'; simp_all

end Table

end TabletFleet
