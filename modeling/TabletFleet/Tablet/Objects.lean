import TabletFleet.Cluster.Claim
import TabletFleet.Cluster.Pod
import TabletFleet.Json.Printer
import TabletFleet.Tablet.Spec

set_option autoImplicit false

/-! # Tablet objects

The pod that runs a tablet and the claim for its data volume, and what later changes of the tablet's
specification do to them. Labels and annotations are changed in place. The pod's specification is replaced
as a whole, and only if the hash of the desired one differs from the hash that the pod records: what the
cluster fills into a running pod's specification is thereby no change. A claim is never made anew, and of
its specification only the requested storage changes: it grows and never shrinks. -/

namespace TabletFleet

/-- The hash of a pod specification, taken of its compact JSON text. -/
def PodSpec.hash (s : PodSpec) : String := Fnv.hex (Fnv.ofText s.toJson.compact)

/-- Running pods record the hash, so it must not change from one release to the next. -/
example : ({} : PodSpec).hash = "a9ab578fed7ca3e3" := by decide +kernel

namespace TabletSpec

/-! ## The desired pod -/

def vttabletContainer : String := "vttablet"
def mysqldContainer : String := "mysqld"
def dataVolume : String := "vt-data"
def dataMountPath : String := "/vt/vtdataroot"

/-- The label by which nodes tell their availability zone. -/
def zoneLabel : String := "topology.kubernetes.io/zone"

/-- The flags that the tablet process is started with; the user's win. -/
def flags (t : TabletSpec) : StringMap :=
  let identity := [
    ("tablet-path", t.identity.text), ("init_keyspace", t.keyspace), ("init_shard", t.shardName),
    ("init_tablet_type", t.type.initName)]
  let topology :=
    if t.globalLockserver.address.isEmpty then []
    else [
      ("topo_implementation", t.globalLockserver.implementation),
      ("topo_global_server_address", t.globalLockserver.address),
      ("topo_global_root", t.globalLockserver.rootPath)]
  let database :=
    if t.databaseName.isEmpty then [] else [("init_db_name_override", t.databaseName)]
  let backup :=
    match t.backupLocation.bind (·.storageRoot) with
    | none => []
    | some root => [("backup_storage_root", root)]
  (OrdMap.ofList (identity ++ topology ++ database ++ backup)).merge t.extraFlags

/-- The command line of the tablet process, in the order of the flags' names. -/
def arguments (t : TabletSpec) : List String :=
  t.flags.toList.map fun e => "--" ++ e.1 ++ "=" ++ e.2

/-- The mounts of a container: the data volume, if there is one. -/
def volumeMounts (t : TabletSpec) : Option (List VolumeMount) :=
  t.claimTemplate.map fun _ => [{ name := dataVolume, mountPath := dataMountPath }]

def vttabletProcess (t : TabletSpec) : Container where
  name := vttabletContainer
  image := some t.images.vttablet
  args := some t.arguments
  ports := some [
    { name := some "web", containerPort := 15000 }, { name := some "grpc", containerPort := 15999 }]
  resources := some t.resources
  volumeMounts := t.volumeMounts

/-- The database process, which needs both settings and an image. -/
def mysqldProcess? (t : TabletSpec) : Option Container := do
  let settings ← t.mysqld
  let image ← t.images.mysqld
  return {
    name := mysqldContainer
    image := some image
    ports := some [{ name := some "mysql", containerPort := 3306 }]
    resources := some settings.resources
    volumeMounts := t.volumeMounts }

/-- The specification of the tablet's pod. -/
def podSpec (t : TabletSpec) : PodSpec where
  containers := t.vttabletProcess :: t.mysqldProcess?.toList
  volumes := t.claimTemplate.map fun _ =>
    [{ name := dataVolume, claim := some { claimName := t.name } }]
  hostname := some t.identity.text
  nodeSelector := t.zone.map fun zone => .ofList [(zoneLabel, zone)]
  affinity := t.affinity
  tolerations := if t.tolerations.isEmpty then none else some t.tolerations

/-- A new pod for the tablet. -/
def newPod (t : TabletSpec) (key : ObjectKey) : Pod where
  metadata := {
    name := some key.name
    ns := some key.ns
    labels := some t.objectLabels
    annotations := some (t.annotations.insert AnnotationKey.specHash t.podSpec.hash) }
  spec := some t.podSpec

end TabletSpec

/-! ## Changes to a live pod -/

namespace Pod

/-- Apply the changes that need no restart. Labels and annotations of others are kept. -/
def updateInPlace (p : Pod) (t : TabletSpec) : Pod :=
  { p with metadata := (p.metadata.mergeLabels t.objectLabels).mergeAnnotations t.annotations }

/-- Apply all changes; those of the specification need the pod to be made anew. The node that the pod
runs on is kept. -/
def update (p : Pod) (t : TabletSpec) : Pod :=
  let p := p.updateInPlace t
  if p.metadata.annotation? AnnotationKey.specHash = some t.podSpec.hash then p
  else
    { p with
      metadata := p.metadata.annotate AnnotationKey.specHash t.podSpec.hash
      spec := some { t.podSpec with nodeName := p.spec.bind (·.nodeName) } }

end Pod

/-! ## Data volume claims -/

/-- A new claim for the tablet's data volume, if it is to have one. -/
def TabletSpec.newClaim? (t : TabletSpec) (key : ObjectKey) : Option Claim :=
  t.claimTemplate.map fun template => {
    metadata := {
      name := some key.name
      ns := some key.ns
      labels := some t.objectLabels
      annotations := if t.annotations.isEmpty then none else some t.annotations }
    spec := some template }

namespace ClaimSpec

/-- Whether a request of `want` is a reason to change what is requested: because nothing is, or
because `want` is more. Amounts that cannot be compared are none. -/
def growsTo (s : ClaimSpec) (want : Quantity) : Bool :=
  match s.requestedStorage? with
  | none => true
  | some live =>
    match live.amount?, want.amount? with
    | some l, some w => l < w
    | _, _ => false

/-- Request as much storage as the template, unless that much is requested already. -/
def growTo (s : ClaimSpec) (want : Quantity) : ClaimSpec :=
  if s.growsTo want then s.requestStorage want else s

end ClaimSpec

/-- Apply a change of the tablet's specification to its live claim. Labels and annotations of others
are kept. -/
def Claim.updateInPlace (c : Claim) (t : TabletSpec) : Claim :=
  let metadata := (c.metadata.mergeLabels t.objectLabels).mergeAnnotations t.annotations
  match t.claimTemplate.bind (·.requestedStorage?) with
  | none => { c with metadata }
  | some want => { c with metadata, spec := some ((c.spec.getD {}).growTo want) }

end TabletFleet
