import TabletFleet.Cluster.ManagedObject
import TabletFleet.Cluster.Parts

set_option autoImplicit false

/-! # Pods

A pod runs containers on one node. Its specification is fixed when it is created; its status is
reported by the cluster. -/

namespace TabletFleet

/-- A port that a container listens on. -/
structure ContainerPort where
  name : Option String := none
  containerPort : Int32 := 0
  extra : Extra := .empty
deriving DecidableEq, Inhabited

/-- A volume's place in a container's file system. -/
structure VolumeMount where
  name : String := ""
  mountPath : String := ""
  extra : Extra := .empty
deriving DecidableEq, Inhabited

structure Container where
  name : String := ""
  image : Option String := none
  args : Option (List String) := none
  ports : Option (List ContainerPort) := none
  resources : Option ResourceRequirements := none
  volumeMounts : Option (List VolumeMount) := none
  extra : Extra := .empty
deriving DecidableEq, Inhabited

/-- The claim that a volume is backed by. -/
structure ClaimSource where
  claimName : String := ""
  readOnly : Option Bool := none
deriving DecidableEq, Inhabited

structure Volume where
  name : String := ""
  claim : Option ClaimSource := none
  extra : Extra := .empty
deriving DecidableEq, Inhabited

structure PodSpec where
  containers : List Container := []
  volumes : Option (List Volume) := none
  hostname : Option String := none
  nodeName : Option String := none
  nodeSelector : Option StringMap := none
  affinity : Option Affinity := none
  tolerations : Option (List Toleration) := none
  extra : Extra := .empty
deriving DecidableEq, Inhabited

structure PodStatus where
  phase : Option String := none
  conditions : Option (List Condition) := none
  extra : Extra := .empty
deriving DecidableEq, Inhabited

structure Pod where
  metadata : ObjectMeta := {}
  spec : Option PodSpec := none
  status : Option PodStatus := none
deriving DecidableEq, Inhabited

/-! ## Writing -/

namespace ContainerPort

def toJson (p : ContainerPort) : Json :=
  p.extra.write [("name", p.name.map .str), ("containerPort", some (.int p.containerPort.toInt))]

end ContainerPort

namespace VolumeMount

def toJson (m : VolumeMount) : Json :=
  m.extra.write [("name", some (.str m.name)), ("mountPath", some (.str m.mountPath))]

end VolumeMount

namespace Container

def toJson (c : Container) : Json :=
  c.extra.write [
    ("name", some (.str c.name)), ("image", c.image.map .str),
    ("args", c.args.map fun args => .arr (args.map .str)),
    ("ports", c.ports.map fun ports => .arr (ports.map (·.toJson))),
    ("resources", c.resources.map (·.toJson)),
    ("volumeMounts", c.volumeMounts.map fun mounts => .arr (mounts.map (·.toJson)))]

end Container

namespace ClaimSource

def toJson (s : ClaimSource) : Json :=
  .objectOf [("claimName", some (.str s.claimName)), ("readOnly", s.readOnly.map .bool)]

end ClaimSource

namespace Volume

def toJson (v : Volume) : Json :=
  v.extra.write [
    ("name", some (.str v.name)), ("persistentVolumeClaim", v.claim.map (·.toJson))]

end Volume

namespace PodSpec

def toJson (s : PodSpec) : Json :=
  s.extra.write [
    ("containers", some (.arr (s.containers.map (·.toJson)))),
    ("volumes", s.volumes.map fun volumes => .arr (volumes.map (·.toJson))),
    ("hostname", s.hostname.map .str), ("nodeName", s.nodeName.map .str),
    ("nodeSelector", s.nodeSelector.map .ofStringMap),
    ("affinity", s.affinity.map (·.toJson)),
    ("tolerations", s.tolerations.map fun ts => .arr (ts.map (·.toJson)))]

end PodSpec

namespace PodStatus

def written (s : PodStatus) : PodStatus :=
  { s with conditions := s.conditions.map (·.map Condition.written) }

theorem written_written (s : PodStatus) : s.written.written = s.written := by
  cases h : s.conditions <;>
    simp only [written, h, Option.map_none, Option.map_some, map_written_written]

def toJson (s : PodStatus) : Json :=
  s.extra.write [
    ("phase", s.phase.map .str),
    ("conditions", s.conditions.map fun cs => .arr (cs.map (·.toJson)))]

end PodStatus

namespace Pod

def written (p : Pod) : Pod :=
  { p with metadata := p.metadata.wholeSeconds, status := p.status.map (·.written) }

def toJson (p : Pod) : Json :=
  .objectOf (objectHead "Pod" p.metadata ++ [
    ("spec", p.spec.map (·.toJson)), ("status", p.status.map (·.toJson))])

end Pod

/-! ## Reading -/

section Reading

variable {δ : Type} [Document δ]

def ContainerPort.ofDocument? (d : δ) : Option ContainerPort := do
  let ms ← Document.members? d
  return {
    name := ← Document.optional ms "name" Document.text?
    containerPort := ← Document.orElse ms "containerPort" 0 Document.int32?
    extra := ← Shape.readFields Shape.portFields ms }

def VolumeMount.ofDocument? (d : δ) : Option VolumeMount := do
  let ms ← Document.members? d
  return {
    name := ← Document.orElse ms "name" "" Document.text?
    mountPath := ← Document.orElse ms "mountPath" "" Document.text?
    extra := ← Shape.readFields Shape.mountFields ms }

def Container.ofDocument? (d : δ) : Option Container := do
  let ms ← Document.members? d
  return {
    name := ← Document.orElse ms "name" "" Document.text?
    image := ← Document.optional ms "image" Document.text?
    args := ← Document.optional ms "args" (Document.list? Document.text?)
    ports := ← Document.optional ms "ports" (Document.list? ContainerPort.ofDocument?)
    resources := ← Document.optional ms "resources" ResourceRequirements.ofDocument?
    volumeMounts := ← Document.optional ms "volumeMounts" (Document.list? VolumeMount.ofDocument?)
    extra := ← Shape.readFields Shape.containerFields ms }

def ClaimSource.ofDocument? (d : δ) : Option ClaimSource := do
  let ms ← Document.members? d
  return {
    claimName := ← Document.orElse ms "claimName" "" Document.text?
    readOnly := ← Document.optional ms "readOnly" Document.flag? }

def Volume.ofDocument? (d : δ) : Option Volume := do
  let ms ← Document.members? d
  return {
    name := ← Document.orElse ms "name" "" Document.text?
    claim := ← Document.optional ms "persistentVolumeClaim" ClaimSource.ofDocument?
    extra := ← Shape.readFields Shape.volumeFields ms }

def PodSpec.ofDocument? (d : δ) : Option PodSpec := do
  let ms ← Document.members? d
  return {
    containers := ← Document.orElse ms "containers" [] (Document.list? Container.ofDocument?)
    volumes := ← Document.optional ms "volumes" (Document.list? Volume.ofDocument?)
    hostname := ← Document.optional ms "hostname" Document.text?
    nodeName := ← Document.optional ms "nodeName" Document.text?
    nodeSelector := ← Document.optional ms "nodeSelector" Document.stringMap?
    affinity := ← Document.optional ms "affinity" Affinity.ofDocument?
    tolerations := ← Document.optional ms "tolerations" (Document.list? Toleration.ofDocument?)
    extra := ← Shape.readFields Shape.podSpecFields ms }

def PodStatus.ofDocument? (d : δ) : Option PodStatus := do
  let ms ← Document.members? d
  return {
    phase := ← Document.optional ms "phase" Document.text?
    conditions := ← Document.optional ms "conditions" (Document.list? Condition.ofDocument?)
    extra := ← Shape.readFields Shape.podStatusFields ms }

def Pod.ofDocument? (d : δ) : Option Pod := do
  let ms ← Document.members? d
  checkKind "Pod" ms
  return {
    metadata := ← Document.orElse ms "metadata" {} ObjectMeta.ofDocument?
    spec := ← Document.optional ms "spec" PodSpec.ofDocument?
    status := ← Document.optional ms "status" PodStatus.ofDocument? }

end Reading

instance : ManagedObject Pod where
  kind := "Pod"
  collection := "pods"
  metadata := Pod.metadata
  setMetadata p m := { p with metadata := m }
  written := Pod.written
  toJson := Pod.toJson
  ofDocument? := Pod.ofDocument?
  metadata_setMetadata _ _ := rfl
  setMetadata_metadata _ := rfl
  setMetadata_setMetadata _ _ _ := rfl
  written_setMetadata _ _ := rfl
  written_written p := by
    cases h : p.status <;>
      simp [Pod.written, h, ObjectMeta.wholeSeconds_wholeSeconds, PodStatus.written_written]

end TabletFleet
