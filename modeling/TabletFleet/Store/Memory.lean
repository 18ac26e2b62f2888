import TabletFleet.Cluster.Claim
import TabletFleet.Cluster.ConfigMap
import TabletFleet.Cluster.Pod
import TabletFleet.Store.Table

set_option autoImplicit false

/-! # The memory store

A store that keeps its objects in memory, for dry runs and for trying things out. This is the typed view of
a store of slots in which three kinds lie that share no name: one table of objects for each, in place of
one map of JSON. On these kinds it answers as the store of slots does. Passes run on it.

Every successful write raises the store's revision by one and stamps it on the object as its resource
version; a new object without a uid gets one from the store's source of uids. Any operation but listing can
be made to fail for the objects of a given name. -/

namespace TabletFleet

/-- Objects in memory. Nothing is assumed of the source of uids: it may be random. -/
structure MemoryStore where
  pods : Table Pod := .empty
  claims : Table Claim := .empty
  configMaps : Table ConfigMap := .empty
  rejections : Rejections := []
  /-- The number of successful writes. -/
  revision : Nat := 0
  /-- The uid that a new object without one gets from the write with the given number. -/
  newUid : Nat → String
deriving Inhabited

/-- The kinds of objects that a memory store has a table for. The tables, the rejections and the
revision are independent of each other. -/
class Stored (K : Type) extends ManagedObject K where
  table : MemoryStore → Table K
  setTable : Table K → MemoryStore → MemoryStore
  table_setTable : ∀ t s, table (setTable t s) = t
  setTable_table : ∀ s, setTable (table s) s = s
  setTable_setTable : ∀ t t' s, setTable t (setTable t' s) = setTable t s
  rejections_setTable : ∀ t s, (setTable t s).rejections = s.rejections
  revision_setTable : ∀ t s, (setTable t s).revision = s.revision
  newUid_setTable : ∀ t s, (setTable t s).newUid = s.newUid
  table_with : ∀ (s : MemoryStore) (r : Rejections) (n : Nat),
    table { s with rejections := r, revision := n } = table s

instance : Stored Pod where
  table s := s.pods
  setTable t s := { s with pods := t }
  table_setTable _ _ := rfl
  setTable_table _ := rfl
  setTable_setTable _ _ _ := rfl
  rejections_setTable _ _ := rfl
  revision_setTable _ _ := rfl
  newUid_setTable _ _ := rfl
  table_with _ _ _ := rfl

instance : Stored Claim where
  table s := s.claims
  setTable t s := { s with claims := t }
  table_setTable _ _ := rfl
  setTable_table _ := rfl
  setTable_setTable _ _ _ := rfl
  rejections_setTable _ _ := rfl
  revision_setTable _ _ := rfl
  newUid_setTable _ _ := rfl
  table_with _ _ _ := rfl

instance : Stored ConfigMap where
  table s := s.configMaps
  setTable t s := { s with configMaps := t }
  table_setTable _ _ := rfl
  setTable_table _ := rfl
  setTable_setTable _ _ _ := rfl
  rejections_setTable _ _ := rfl
  revision_setTable _ _ := rfl
  newUid_setTable _ _ := rfl
  table_with _ _ _ := rfl

namespace MemoryStore

/-- The store that holds nothing yet. -/
def empty (newUid : Nat → String) : MemoryStore := { newUid }

/-! ## Rejections -/

def reject (s : MemoryStore) (verb : Verb) (name : String) : MemoryStore :=
  { s with rejections := s.rejections.reject verb name }

def allow (s : MemoryStore) (verb : Verb) (name : String) : MemoryStore :=
  { s with rejections := s.rejections.allow verb name }

def rejects (s : MemoryStore) (verb : Verb) (name : String) : Bool :=
  s.rejections.contains (verb, name)

/-- The error of an operation on an object, if it is to fail. -/
def rejection? (K : Type) [Stored K] (s : MemoryStore) (verb : Verb) (key : ObjectKey) :
    Option StoreError :=
  s.rejections.error? verb (ManagedObject.kind K) key

theorem rejection?_eq (K : Type) [Stored K] (s : MemoryStore) (verb : Verb) (key : ObjectKey) :
    s.rejection? K verb key
      = if s.rejects verb key.name then some (.rejected verb (ManagedObject.kind K) key) else none :=
  rfl

/-! ## Reading -/

/-- The object at a key. -/
def fetch? (K : Type) [Stored K] (s : MemoryStore) (key : ObjectKey) : Option K :=
  (Stored.table s).get? key

/-- The names of all objects of a kind, in the order of their keys. -/
def names (K : Type) [Stored K] (s : MemoryStore) : List String :=
  (Stored.table (K := K) s).keys.map (·.name)

/-- Look an object up. -/
def get (K : Type) [Stored K] (s : MemoryStore) (key : ObjectKey) : Except StoreError (Option K) :=
  match s.rejection? K .get key with
  | some e => .error e
  | none => .ok (s.fetch? K key)

/-- The objects of a namespace that carry every label of the selector, by name. -/
def list (K : Type) [Stored K] (s : MemoryStore) (ns : String) (selector : StringMap) : List K :=
  (Stored.table (K := K) s).select ns selector

/-! ## Writing -/

variable {K : Type} [Stored K]

/-- The stamp of the next write. -/
def nextStamp (s : MemoryStore) : Stamp := ⟨s.revision + 1, s.newUid (s.revision + 1)⟩

/-- Store a stamped object at its key; answers the object as it was stamped. -/
def write (s : MemoryStore) (isNew : Bool) (key : ObjectKey) (object : K)
    (h : ManagedObject.key? object = some key) : K × MemoryStore :=
  let stamped := stampedAs s.nextStamp isNew object
  let table := (Stored.table s).put key stamped ((key?_stampedAs s.nextStamp isNew object).trans h)
  (stamped, Stored.setTable table { s with revision := s.revision + 1 })

/-- Put an object in as if it had been there before, whatever is rejected. -/
def insert (s : MemoryStore) (object : K) : Except StoreError (K × MemoryStore) :=
  match h : ManagedObject.key? object with
  | none => .error (.missingKey (ManagedObject.kind K))
  | some key => .ok (s.write true key object h)

/-- Store an object where there is none. -/
def create (s : MemoryStore) (object : K) : Except StoreError (K × MemoryStore) :=
  match h : ManagedObject.key? object with
  | none => .error (.missingKey (ManagedObject.kind K))
  | some key =>
    match s.rejection? K .create key, s.fetch? K key with
    | some e, _ => .error e
    | none, some _ => .error (.alreadyExists (ManagedObject.kind K) key)
    | none, none => .ok (s.write true key object h)

/-- Store an object where there is one. -/
def update (s : MemoryStore) (object : K) : Except StoreError (K × MemoryStore) :=
  match h : ManagedObject.key? object with
  | none => .error (.missingKey (ManagedObject.kind K))
  | some key =>
    match s.rejection? K .update key, s.fetch? K key with
    | some e, _ => .error e
    | none, none => .error (.notFound (ManagedObject.kind K) key)
    | none, some _ => .ok (s.write false key object h)

/-- Remove an object, if it is there. -/
def delete (K : Type) [Stored K] (s : MemoryStore) (key : ObjectKey) :
    Except StoreError MemoryStore :=
  match s.rejection? K .delete key with
  | some e => .error e
  | none => .ok (Stored.setTable ((Stored.table (K := K) s).erase key) s)

/-! ## Calls -/

/-- A write as a call: a failed one leaves the store as it was. -/
def attempt {α : Type} (f : MemoryStore → Except StoreError (α × MemoryStore)) :
    StateM MemoryStore (Except StoreError α) := fun s =>
  match f s with
  | .ok (answer, s) => (.ok answer, s)
  | .error e => (.error e, s)

/-- The calls on one kind of object in a memory store. -/
def calls (K : Type) [Stored K] : ObjectStore MemoryStore K where
  get key := fun s => (s.get K key, s)
  list ns selector := fun s => (.ok (s.list K ns selector), s)
  create object := attempt fun s => s.create object
  update object := attempt fun s => s.update object
  delete key := attempt fun s => (s.delete K key).map ((), ·)

end MemoryStore

end TabletFleet
