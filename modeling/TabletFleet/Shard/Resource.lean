import TabletFleet.Shard.Spec

set_option autoImplicit false

/-! # The shard resource as a document

Reading and writing shard resources. Absent fields take their defaults; null stands for absence only
where a field is optional; unknown fields are ignored. A resource is written with every field. -/

namespace TabletFleet

/-- The value, or null. -/
def Json.orNull (j : Option Json) : Json := j.getD .null

/-! ## Writing -/

namespace KeyRange

def toJson (r : KeyRange) : Json := .object [("start", .str r.start), ("end", .str r.stop)]

end KeyRange

namespace TabletImages

def toJson (i : TabletImages) : Json :=
  .object [("vttablet", .str i.vttablet), ("mysqld", .orNull (i.mysqld.map .str))]

end TabletImages

namespace Lockserver

def toJson (l : Lockserver) : Json :=
  .object [
    ("implementation", .str l.implementation), ("address", .str l.address),
    ("rootPath", .str l.rootPath)]

end Lockserver

namespace VttabletSettings

def toJson (v : VttabletSettings) : Json :=
  .object [("extraFlags", .ofStringMap v.extraFlags), ("resources", v.resources.toJson)]

end VttabletSettings

namespace MysqldSettings

def toJson (m : MysqldSettings) : Json := .object [("resources", m.resources.toJson)]

end MysqldSettings

namespace TabletPool

def toJson (p : TabletPool) : Json :=
  .object [
    ("cell", .str p.cell), ("type", .str p.type.name), ("replicas", .int p.replicas.toInt),
    ("vttablet", p.vttablet.toJson), ("mysqld", .orNull (p.mysqld.map (·.toJson))),
    ("dataVolumeClaimTemplate", .orNull (p.dataVolumeClaimTemplate.map (·.toJson))),
    ("backupLocationName", .str p.backupLocationName),
    ("annotations", .ofStringMap p.annotations), ("extraLabels", .ofStringMap p.extraLabels),
    ("affinity", .orNull (p.affinity.map (·.toJson))),
    ("tolerations", .arr (p.tolerations.map (·.toJson)))]

end TabletPool

namespace BackupLocation

def toJson (b : BackupLocation) : Json :=
  .object [
    ("name", .str b.name), ("storageRoot", .orNull (b.storageRoot.map .str)),
    ("annotations", .ofStringMap b.annotations)]

end BackupLocation

namespace ShardSpec

def toJson (s : ShardSpec) : Json :=
  .object [
    ("name", .str s.name), ("keyRange", s.keyRange.toJson), ("images", s.images.toJson),
    ("globalLockserver", s.globalLockserver.toJson),
    ("extraVitessFlags", .ofStringMap s.extraVitessFlags),
    ("tabletPools", .arr (s.tabletPools.map (·.toJson))),
    ("backupLocations", .arr (s.backupLocations.map (·.toJson))),
    ("zoneMap", .ofStringMap s.zoneMap), ("databaseName", .str s.databaseName),
    ("updateStrategy", .str s.updateStrategy.name)]

end ShardSpec

namespace Shard

def toJson (s : Shard) : Json :=
  .object [
    ("metadata", s.metadata.toJson), ("spec", s.spec.toJson), ("status", s.status.toJson)]

end Shard

/-! ## Reading -/

section Reading

variable {δ : Type} [Document δ]

def KeyRange.ofDocument? (d : δ) : Option KeyRange := do
  let ms ← Document.record? ["start", "end"] d
  return {
    start := ← Document.defaulted ms "start" "" Document.text?
    stop := ← Document.defaulted ms "end" "" Document.text? }

def TabletImages.ofDocument? (d : δ) : Option TabletImages := do
  let ms ← Document.record? ["vttablet", "mysqld"] d
  return {
    vttablet := ← Document.defaulted ms "vttablet" "" Document.text?
    mysqld := ← Document.optional ms "mysqld" Document.text? }

def Lockserver.ofDocument? (d : δ) : Option Lockserver := do
  let ms ← Document.record? ["implementation", "address", "rootPath"] d
  return {
    implementation := ← Document.defaulted ms "implementation" "" Document.text?
    address := ← Document.defaulted ms "address" "" Document.text?
    rootPath := ← Document.defaulted ms "rootPath" "" Document.text? }

def VttabletSettings.ofDocument? (d : δ) : Option VttabletSettings := do
  let ms ← Document.record? ["extraFlags", "resources"] d
  return {
    extraFlags := ← Document.defaulted ms "extraFlags" .empty Document.stringMap?
    resources := ← Document.defaulted ms "resources" {} ResourceRequirements.ofDocument? }

def MysqldSettings.ofDocument? (d : δ) : Option MysqldSettings := do
  let ms ← Document.record? ["resources"] d
  return { resources := ← Document.defaulted ms "resources" {} ResourceRequirements.ofDocument? }

def TabletPool.ofDocument? (d : δ) : Option TabletPool := do
  let ms ← Document.record? ["cell", "type", "replicas", "vttablet", "mysqld",
    "dataVolumeClaimTemplate", "backupLocationName", "annotations", "extraLabels", "affinity",
    "tolerations"] d
  return {
    cell := ← Document.required ms "cell" Document.text?
    type := ← Document.required ms "type" PoolType.ofDocument?
    replicas := ← Document.required ms "replicas" Document.int32?
    vttablet := ← Document.defaulted ms "vttablet" {} VttabletSettings.ofDocument?
    mysqld := ← Document.optional ms "mysqld" MysqldSettings.ofDocument?
    dataVolumeClaimTemplate := ←
      Document.optional ms "dataVolumeClaimTemplate" ClaimSpec.ofDocument?
    backupLocationName := ← Document.defaulted ms "backupLocationName" "" Document.text?
    annotations := ← Document.defaulted ms "annotations" .empty Document.stringMap?
    extraLabels := ← Document.defaulted ms "extraLabels" .empty Document.stringMap?
    affinity := ← Document.optional ms "affinity" Affinity.ofDocument?
    tolerations := ← Document.defaulted ms "tolerations" []
      (Document.list? Toleration.ofDocument?) }

def BackupLocation.ofDocument? (d : δ) : Option BackupLocation := do
  let ms ← Document.record? ["name", "storageRoot", "annotations"] d
  return {
    name := ← Document.defaulted ms "name" "" Document.text?
    storageRoot := ← Document.optional ms "storageRoot" Document.text?
    annotations := ← Document.defaulted ms "annotations" .empty Document.stringMap? }

def ShardSpec.ofDocument? (d : δ) : Option ShardSpec := do
  let ms ← Document.record? ["name", "keyRange", "images", "globalLockserver", "extraVitessFlags",
    "tabletPools", "backupLocations", "zoneMap", "databaseName", "updateStrategy"] d
  return {
    name := ← Document.required ms "name" Document.text?
    keyRange := ← Document.defaulted ms "keyRange" {} KeyRange.ofDocument?
    images := ← Document.defaulted ms "images" {} TabletImages.ofDocument?
    globalLockserver := ← Document.defaulted ms "globalLockserver" {} Lockserver.ofDocument?
    extraVitessFlags := ← Document.defaulted ms "extraVitessFlags" .empty Document.stringMap?
    tabletPools := ← Document.defaulted ms "tabletPools" []
      (Document.list? TabletPool.ofDocument?)
    backupLocations := ← Document.defaulted ms "backupLocations" []
      (Document.list? BackupLocation.ofDocument?)
    zoneMap := ← Document.defaulted ms "zoneMap" .empty Document.stringMap?
    databaseName := ← Document.defaulted ms "databaseName" "" Document.text?
    updateStrategy := ← Document.defaulted ms "updateStrategy" .external
      UpdateStrategy.ofDocument? }

def Shard.ofDocument? (d : δ) : Option Shard := do
  let ms ← Document.record? ["metadata", "spec", "status"] d
  return {
    metadata := ← Document.defaulted ms "metadata" {} ObjectMeta.ofDocument?
    spec := ← Document.required ms "spec" ShardSpec.ofDocument?
    status := ← Document.defaulted ms "status" {} ShardStatus.ofDocument? }

end Reading

end TabletFleet
