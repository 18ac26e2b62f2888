import TabletFleet.Cluster.ManagedObject

set_option autoImplicit false

/-! # Object stores

The only way in which the reconciler reaches the objects of a cluster: five calls on the objects of one
kind. A call may read and change a world of any type `σ`, of which its caller knows nothing. -/

namespace TabletFleet

/-! ## Errors

What can go wrong when objects are read from or written to a store. -/

/-- What is asked of a store. -/
inductive Verb where
  | get
  | list
  | create
  | update
  | delete
deriving DecidableEq, Inhabited

namespace Verb

def name : Verb → String
  | .get => "get"
  | .list => "list"
  | .create => "create"
  | .update => "update"
  | .delete => "delete"

def ofName? : String → Option Verb
  | "get" => some .get
  | "list" => some .list
  | "create" => some .create
  | "update" => some .update
  | "delete" => some .delete
  | _ => none

theorem ofName?_name (v : Verb) : ofName? v.name = some v := by cases v <;> rfl

end Verb

/-- Why a store did not do what was asked. -/
inductive StoreError where
  | notFound (kind : String) (key : ObjectKey)
  | alreadyExists (kind : String) (key : ObjectKey)
  /-- The object is no longer the one that was read. -/
  | conflict (kind : String) (key : ObjectKey)
  /-- The object names no key to store it under. -/
  | missingKey (kind : String)
  | rejected (verb : Verb) (kind : String) (key : ObjectKey)
  /-- What is stored is not of the kind that is asked for. The decoder's own words are not kept. -/
  | codec
  /-- The API server refused for another reason, gave no answer, or gave one that makes no sense. -/
  | api (detail : String)
deriving DecidableEq, Inhabited

def StoreError.message : StoreError → String
  | .notFound kind key => kind ++ " " ++ key.text ++ " not found"
  | .alreadyExists kind key => kind ++ " " ++ key.text ++ " already exists"
  | .conflict kind key => kind ++ " " ++ key.text ++ " was modified concurrently"
  | .missingKey kind => kind ++ " object has no name or namespace"
  | .rejected verb kind key => verb.name ++ " " ++ kind ++ " " ++ key.text ++ " rejected"
  | .codec => "encoding object"
  | .api detail => "kube api: " ++ detail

/-! ## Rejections -/

/-- The operations that fail, and the names of the objects for which they do: of every kind and in every
namespace. -/
abbrev Rejections := List (Verb × String)

namespace Rejections

/-- Make an operation fail for the objects of the given name. -/
def reject (r : Rejections) (verb : Verb) (name : String) : Rejections := (verb, name) :: r

/-- Let an operation through again. -/
def allow (r : Rejections) (verb : Verb) (name : String) : Rejections := r.filter (· ≠ (verb, name))

/-- The error of an operation on an object, if it is to fail. -/
def error? (r : Rejections) (verb : Verb) (kind : String) (key : ObjectKey) : Option StoreError :=
  if r.contains (verb, key.name) then some (.rejected verb kind key) else none

end Rejections

/-! ## Calls -/

/-- Calls on the objects of kind `K` in a world of type `σ`. -/
structure ObjectStore (σ K : Type) where
  /-- The object at a key, if there is one. -/
  get : ObjectKey → StateM σ (Except StoreError (Option K))
  /-- The objects of a namespace that carry every label of the selector. -/
  list : String → StringMap → StateM σ (Except StoreError (List K))
  /-- Store a new object; answers what was stored. -/
  create : K → StateM σ (Except StoreError K)
  /-- Store a new state of an object; answers what was stored. -/
  update : K → StateM σ (Except StoreError K)
  /-- Remove an object. That it is gone already is no error. -/
  delete : ObjectKey → StateM σ (Except StoreError Unit)

namespace ObjectStore

variable {σ τ K : Type}

/-- The same calls in a larger world. -/
def lift (s : ObjectStore σ K) (run : ∀ {α : Type}, StateM σ α → StateM τ α) : ObjectStore τ K where
  get key := run (s.get key)
  list ns selector := run (s.list ns selector)
  create object := run (s.create object)
  update object := run (s.update object)
  delete key := run (s.delete key)

end ObjectStore

/-! ## Stamps -/

/-- What a write stamps on an object. -/
structure Stamp where
  /-- The number of the write, which becomes the object's version. -/
  version : Nat
  /-- The uid of a new object that has none. -/
  uid : String
deriving DecidableEq, Inhabited

section Stamps

variable {K : Type} [ManagedObject K]

/-- The object with its stamp; a new one gets the uid, unless it has one. -/
def stampedAs (stamp : Stamp) (isNew : Bool) (object : K) : K :=
  ManagedObject.mapMetadata (fun m =>
    { m with
      uid := if isNew then m.uid.or stamp.uid else m.uid
      resourceVersion := some (toString stamp.version) }) object

theorem key?_stampedAs (stamp : Stamp) (isNew : Bool) (object : K) :
    ManagedObject.key? (stampedAs stamp isNew object) = ManagedObject.key? object := by
  simp [stampedAs, ManagedObject.key?]

/-- The object as it is read back after the write. -/
def storedAs (stamp : Stamp) (isNew : Bool) (object : K) : K :=
  ManagedObject.written (stampedAs stamp isNew object)

theorem key?_storedAs (stamp : Stamp) (isNew : Bool) (object : K) :
    ManagedObject.key? (storedAs stamp isNew object) = ManagedObject.key? object := by
  rw [storedAs, ManagedObject.key?_written, key?_stampedAs]

end Stamps

/-! ## Keys -/

/-- The key of an object, or the error that it has none. -/
def requireKey {K : Type} [ManagedObject K] (object : K) : Except StoreError ObjectKey :=
  match ManagedObject.key? object with
  | some key => .ok key
  | none => .error (.missingKey (ManagedObject.kind K))

end TabletFleet
