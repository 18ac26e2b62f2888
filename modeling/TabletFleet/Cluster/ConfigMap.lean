import TabletFleet.Cluster.ManagedObject

set_option autoImplicit false

/-! # Config maps

Objects that hold named texts. -/

namespace TabletFleet

structure ConfigMap where
  metadata : ObjectMeta := {}
  data : Option StringMap := none
  extra : Extra := .empty
deriving DecidableEq, Inhabited

namespace ConfigMap

def written (c : ConfigMap) : ConfigMap := { c with metadata := c.metadata.wholeSeconds }

def toJson (c : ConfigMap) : Json :=
  c.extra.write (objectHead "ConfigMap" c.metadata ++ [("data", c.data.map .ofStringMap)])

def ofDocument? {δ : Type} [Document δ] (d : δ) : Option ConfigMap := do
  let ms ← Document.members? d
  checkKind "ConfigMap" ms
  return {
    metadata := ← Document.orElse ms "metadata" {} ObjectMeta.ofDocument?
    data := ← Document.optional ms "data" Document.stringMap?
    extra := ← Shape.readFields Shape.configMapFields ms }

end ConfigMap

instance : ManagedObject ConfigMap where
  kind := "ConfigMap"
  collection := "configmaps"
  metadata := ConfigMap.metadata
  setMetadata c m := { c with metadata := m }
  written := ConfigMap.written
  toJson := ConfigMap.toJson
  ofDocument? := ConfigMap.ofDocument?
  metadata_setMetadata _ _ := rfl
  setMetadata_metadata _ := rfl
  setMetadata_setMetadata _ _ _ := rfl
  written_setMetadata _ _ := rfl
  written_written c := by simp [ConfigMap.written, ObjectMeta.wholeSeconds_wholeSeconds]

end TabletFleet
