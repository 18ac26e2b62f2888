import TabletFleet.Cluster.Shape.Table

set_option autoImplicit false

/-! # Object metadata

The identity, labels and annotations that every cluster object carries. An absent label or annotation
map differs from an empty one: both are kept and written as given. -/

namespace TabletFleet

/-- Write those fields that have a value next to the ones that are carried along. -/
def Extra.write (extra : Extra) (fields : List (String × Option Json)) : Json :=
  .ofMap (extra.insertMany (fields.filterMap fun f => f.2.map (f.1, ·)))

/-- Metadata of a cluster object. -/
structure ObjectMeta where
  name : Option String := none
  ns : Option String := none
  labels : Option StringMap := none
  annotations : Option StringMap := none
  uid : Option String := none
  resourceVersion : Option String := none
  generation : Option Int64 := none
  /-- Set once the object is on its way out. -/
  deletionTimestamp : Option Timestamp := none
  extra : Extra := .empty
deriving DecidableEq, Inhabited

namespace ObjectMeta

/-- The value of an annotation. -/
def annotation? (m : ObjectMeta) (key : String) : Option String := m.annotations.bind (·.get? key)

def hasAnnotation (m : ObjectMeta) (key : String) : Bool := (m.annotation? key).isSome

/-- Set an annotation. -/
def annotate (m : ObjectMeta) (key value : String) : ObjectMeta :=
  { m with annotations := some ((m.annotations.getD .empty).insert key value) }

/-- The value of a label. -/
def label? (m : ObjectMeta) (key : String) : Option String := m.labels.bind (·.get? key)

/-- Set every label of `labels`, keeping the others. -/
def mergeLabels (m : ObjectMeta) (labels : StringMap) : ObjectMeta :=
  { m with labels := some ((m.labels.getD .empty).merge labels) }

/-- Set every annotation of `annotations`, keeping the others. -/
def mergeAnnotations (m : ObjectMeta) (annotations : StringMap) : ObjectMeta :=
  { m with annotations := some ((m.annotations.getD .empty).merge annotations) }

/-- On its way out. -/
def isTerminating (m : ObjectMeta) : Bool := m.deletionTimestamp.isSome

/-- The form in which metadata is written: times without their fractions. -/
def wholeSeconds (m : ObjectMeta) : ObjectMeta :=
  { m with deletionTimestamp := m.deletionTimestamp.map (·.wholeSeconds) }

theorem annotation?_annotate (m : ObjectMeta) (key key' value : String) :
    (m.annotate key value).annotation? key'
      = if key' = key then some value else m.annotation? key' := by
  cases h : m.annotations <;> simp [annotate, annotation?, h]

theorem wholeSeconds_wholeSeconds (m : ObjectMeta) :
    m.wholeSeconds.wholeSeconds = m.wholeSeconds := by
  cases h : m.deletionTimestamp <;> simp [wholeSeconds, h, Timestamp.wholeSeconds_wholeSeconds]

def toJson (m : ObjectMeta) : Json :=
  m.extra.write [
    ("annotations", m.annotations.map .ofStringMap),
    ("deletionTimestamp", m.deletionTimestamp.map (.str ·.text)),
    ("generation", m.generation.map (.int ·.toInt)),
    ("labels", m.labels.map .ofStringMap),
    ("name", m.name.map .str),
    ("namespace", m.ns.map .str),
    ("resourceVersion", m.resourceVersion.map .str),
    ("uid", m.uid.map .str)]

variable {δ : Type} [Document δ]

/-- A point in time. -/
def time? (d : δ) : Option Timestamp := (Document.text? d).bind Timestamp.parse?

def ofDocument? (d : δ) : Option ObjectMeta := do
  let ms ← Document.members? d
  return {
    name := ← Document.optional ms "name" Document.text?
    ns := ← Document.optional ms "namespace" Document.text?
    labels := ← Document.optional ms "labels" Document.stringMap?
    annotations := ← Document.optional ms "annotations" Document.stringMap?
    uid := ← Document.optional ms "uid" Document.text?
    resourceVersion := ← Document.optional ms "resourceVersion" Document.text?
    generation := ← Document.optional ms "generation" Document.int64?
    deletionTimestamp := ← Document.optional ms "deletionTimestamp" time?
    extra := ← Shape.readFields Shape.metadataFields ms }

end ObjectMeta

end TabletFleet
