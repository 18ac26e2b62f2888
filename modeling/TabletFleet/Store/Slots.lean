import TabletFleet.Labels
import TabletFleet.Store.Basic

set_option autoImplicit false

/-! # The store of slots

Objects of all kinds in one map. They are kept as JSON, in the slot of their kind's name and their own
key, so that one store holds any kind. What lies in a slot is decoded whenever it is looked up, as the kind
that is asked for; if two kinds share a name, it may be an object of the other one, and decoding fails.

Every successful write raises the store's revision by one and stamps it on the object as its resource
version; a new object without a uid gets one from the store's source of uids. Any operation but listing can
be made to fail for the objects of a given name. -/

namespace TabletFleet

/-! ## Slots -/

/-- The place of an object: the name of its kind, and its key. -/
structure Slot where
  kind : String
  key : ObjectKey
deriving DecidableEq, Inhabited

namespace Slot

instance : Ord Slot := ⟨compareLex (compareOn Slot.kind) (compareOn Slot.key)⟩

instance : Std.TransOrd Slot :=
  inferInstanceAs (Std.TransCmp (compareLex (compareOn Slot.kind) (compareOn Slot.key)))

instance : Std.LawfulEqOrd Slot where
  eq_of_compare {a b} h := by
    have h : compareLex (compareOn Slot.kind) (compareOn Slot.key) a b = .eq := h
    simp only [compareLex, Ordering.then_eq_eq, compareOn, Std.compare_eq_iff_eq] at h
    cases a; cases b; simp_all

/-- The slot of the object of kind `K` with the given key. -/
def of (K : Type) [ManagedObject K] (key : ObjectKey) : Slot := ⟨ManagedObject.kind K, key⟩

end Slot

/-! ## The store -/

/-- Objects of any kinds in memory. Nothing is assumed of the source of uids: it may be random. -/
structure SlotStore where
  objects : OrdMap Slot Json := .empty
  rejections : Rejections := []
  /-- The number of successful writes. -/
  revision : Nat := 0
  /-- The uid that a new object without one gets from the write with the given number. -/
  newUid : Nat → String
deriving Inhabited

namespace SlotStore

/-- The store that holds nothing yet. -/
def empty (newUid : Nat → String) : SlotStore := { newUid }

def reject (s : SlotStore) (verb : Verb) (name : String) : SlotStore :=
  { s with rejections := s.rejections.reject verb name }

def allow (s : SlotStore) (verb : Verb) (name : String) : SlotStore :=
  { s with rejections := s.rejections.allow verb name }

/-- Fail if the operation is to fail for the object. -/
def check (K : Type) [ManagedObject K] (s : SlotStore) (verb : Verb) (key : ObjectKey) :
    Except StoreError Unit :=
  match s.rejections.error? verb (ManagedObject.kind K) key with
  | some e => .error e
  | none => .ok ()

/-! ## Reading -/

/-- What lies in a slot, as an object of kind `K`. -/
def decode (K : Type) [ManagedObject K] (json : Json) : Except StoreError K :=
  match ManagedObject.ofDocument? json with
  | some object => .ok object
  | none => .error .codec

/-- The object at a key, if there is one of this kind; neither rejections nor decoding fail. -/
def fetch? (K : Type) [ManagedObject K] (s : SlotStore) (key : ObjectKey) : Option K :=
  (s.objects.get? (.of K key)).bind ManagedObject.ofDocument?

/-- The names of all objects of a kind, in the order of their keys. -/
def names (K : Type) [ManagedObject K] (s : SlotStore) : List String :=
  (s.objects.keys.filter fun slot => slot.kind == ManagedObject.kind K).map (·.key.name)

/-- Look an object up. -/
def get (K : Type) [ManagedObject K] (s : SlotStore) (key : ObjectKey) :
    Except StoreError (Option K) := do
  s.check K .get key
  match s.objects.get? (.of K key) with
  | some json => return some (← decode K json)
  | none => return none

/-- What lies in the slots of a kind's name and a namespace, by name. -/
def raw (K : Type) [ManagedObject K] (s : SlotStore) (ns : String) : List Json :=
  (s.objects.toList.filter fun e => e.1.kind == ManagedObject.kind K && e.1.key.ns == ns).map (·.2)

/-- The objects of a namespace that carry every label of the selector, by name. -/
def list (K : Type) [ManagedObject K] (s : SlotStore) (ns : String) (selector : StringMap) :
    Except StoreError (List K) := do
  let objects ← (s.raw K ns).mapM (decode K)
  return objects.filter fun object => Selector.accepts selector (ManagedObject.metadata object).labels

/-! ## Writing -/

variable {K : Type} [ManagedObject K]

/-- The stamp of the next write. -/
def nextStamp (s : SlotStore) : Stamp := ⟨s.revision + 1, s.newUid (s.revision + 1)⟩

/-- Store an object in the slot of a key; answers the object as it was stamped. -/
def write (s : SlotStore) (isNew : Bool) (key : ObjectKey) (object : K) : K × SlotStore :=
  let stamped := stampedAs s.nextStamp isNew object
  (stamped, { s with
    objects := s.objects.insert (.of K key) (ManagedObject.toJson stamped)
    revision := s.revision + 1 })

/-- Put an object in as if it had been there before, whatever is rejected. -/
def insert (s : SlotStore) (object : K) : Except StoreError (K × SlotStore) := do
  let key ← requireKey object
  return s.write true key object

/-- Store an object where there is none. -/
def create (s : SlotStore) (object : K) : Except StoreError (K × SlotStore) := do
  let key ← requireKey object
  s.check K .create key
  if s.objects.contains (.of K key) then .error (.alreadyExists (ManagedObject.kind K) key)
  else .ok (s.write true key object)

/-- Store an object where there is one. -/
def update (s : SlotStore) (object : K) : Except StoreError (K × SlotStore) := do
  let key ← requireKey object
  s.check K .update key
  if s.objects.contains (.of K key) then .ok (s.write false key object)
  else .error (.notFound (ManagedObject.kind K) key)

/-- Empty the slot of a key, if it is not empty already. -/
def delete (K : Type) [ManagedObject K] (s : SlotStore) (key : ObjectKey) :
    Except StoreError SlotStore := do
  s.check K .delete key
  return { s with objects := s.objects.erase (.of K key) }

/-! ## Calls -/

/-- A write as a call: a failed one leaves the store as it was. -/
def attempt {α : Type} (f : SlotStore → Except StoreError (α × SlotStore)) :
    StateM SlotStore (Except StoreError α) := fun s =>
  match f s with
  | .ok (answer, s) => (.ok answer, s)
  | .error e => (.error e, s)

/-- The calls on one kind of object in a store of slots. -/
def calls (K : Type) [ManagedObject K] : ObjectStore SlotStore K where
  get key := fun s => (s.get K key, s)
  list ns selector := fun s => (s.list K ns selector, s)
  create object := attempt (·.create object)
  update object := attempt (·.update object)
  delete key := attempt fun s => (s.delete K key).map ((), ·)

end SlotStore

end TabletFleet
