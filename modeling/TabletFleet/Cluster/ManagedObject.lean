import TabletFleet.Cluster.ObjectMeta

set_option autoImplicit false

/-! # Kinds of cluster objects

What the store and the reconciler need to know of a kind of object: its name, its metadata, and how it
is written and read. Nothing else about an object matters to them. -/

namespace TabletFleet

/-! ## Keys

Objects of one kind are told apart by namespace and name. Keys are ordered by namespace, then by
name. -/

/-- The namespace and name of an object. A tablet's pod and its data volume claim share a key. -/
structure ObjectKey where
  ns : String
  name : String
deriving DecidableEq, Inhabited

namespace ObjectKey

instance : Ord ObjectKey :=
  ⟨compareLex (compareOn ObjectKey.ns) (compareOn ObjectKey.name)⟩

instance : Std.TransOrd ObjectKey :=
  inferInstanceAs
    (Std.TransCmp (compareLex (compareOn ObjectKey.ns) (compareOn ObjectKey.name)))

instance : Std.LawfulEqOrd ObjectKey where
  eq_of_compare {a b} h := by
    have h : compareLex (compareOn ObjectKey.ns) (compareOn ObjectKey.name) a b = .eq := h
    simp only [compareLex, Ordering.then_eq_eq, compareOn, Std.compare_eq_iff_eq] at h
    cases a; cases b; simp_all

/-- `namespace/name`. -/
def text (k : ObjectKey) : String := k.ns ++ "/" ++ k.name

def ofDocument? {δ : Type} [Document δ] (d : δ) : Option ObjectKey := do
  let ms ← Document.record? ["namespace", "name"] d
  return { ns := ← Document.required ms "namespace" Document.text?
           name := ← Document.required ms "name" Document.text? }

def toJson (k : ObjectKey) : Json := .object [("namespace", .str k.ns), ("name", .str k.name)]

end ObjectKey

/-! ## Kinds -/

/-- A kind of namespaced cluster object. -/
class ManagedObject (K : Type) where
  kind : String
  /-- The name of the kind's collection in request paths. -/
  collection : String
  metadata : K → ObjectMeta
  setMetadata : K → ObjectMeta → K
  /-- The object as it is once it has been written: its times have lost their fractions. -/
  written : K → K
  /-- The object as JSON. Writing cannot fail: an object is made of texts, flags, whole numbers, lists and
  maps whose keys are texts, and JSON has all of these. -/
  toJson : K → Json
  ofDocument? {δ : Type} [Document δ] : δ → Option K
  metadata_setMetadata : ∀ k m, metadata (setMetadata k m) = m
  setMetadata_metadata : ∀ k, setMetadata k (metadata k) = k
  setMetadata_setMetadata : ∀ k m m', setMetadata (setMetadata k m) m' = setMetadata k m'
  /-- The metadata are written on their own. -/
  written_setMetadata : ∀ k m, written (setMetadata k m) = setMetadata (written k) m.wholeSeconds
  written_written : ∀ k, written (written k) = written k

namespace ManagedObject

variable {K : Type} [ManagedObject K]

/-- Change an object's metadata. -/
def mapMetadata (f : ObjectMeta → ObjectMeta) (k : K) : K := setMetadata k (f (metadata k))

/-- The key of an object, if its metadata names one. -/
def key? (k : K) : Option ObjectKey := do
  return { ns := ← (metadata k).ns, name := ← (metadata k).name }

/-- On its way out. -/
def isTerminating (k : K) : Bool := (metadata k).isTerminating

theorem metadata_written (k : K) : metadata (written k) = (metadata k).wholeSeconds := by
  have h := written_setMetadata k (metadata k)
  rw [setMetadata_metadata] at h
  rw [h, metadata_setMetadata]

/-- Writing an object does not change its key. -/
theorem key?_written (k : K) : key? (written k) = key? k := by
  simp [key?, metadata_written, ObjectMeta.wholeSeconds]

@[simp] theorem metadata_mapMetadata (f : ObjectMeta → ObjectMeta) (k : K) :
    metadata (mapMetadata f k) = f (metadata k) :=
  metadata_setMetadata ..

end ManagedObject

/-- Check what an object says of its own kind, if it says anything. -/
def checkKind {δ : Type} [Document δ] (kind : String) (ms : Members δ) : Option Unit :=
  let agrees (field expected : String) : Bool :=
    (Document.given ms field).all fun d => Document.text? d == some expected
  guard (agrees "apiVersion" "v1" && agrees "kind" kind)

/-- The fields that every written object starts with. -/
def objectHead (kind : String) (metadata : ObjectMeta) : List (String × Option Json) := [
  ("apiVersion", some (.str "v1")), ("kind", some (.str kind)),
  ("metadata", some metadata.toJson)]

end TabletFleet
