import TabletFleet.Cluster.Shape

set_option autoImplicit false

/-! # The shapes of the core API

The parts of pods, claims and config maps in version 1.29 of the Kubernetes core API, as far as this
program carries them without looking at them. A field that a type of its own reads (a container's
image, a condition's status) is not listed here again. -/

namespace TabletFleet.Shape

/-! ## References and selectors -/

def texts : Shape := .list .text

def textMap : Shape := .map .text

def localReference : Shape := .record [may "name" .text]

def keySelector : Shape := .record [must "key" .text, may "name" .text, may "optional" .flag]

def optionalReference : Shape := .record [may "name" .text, may "optional" .flag]

def fieldReference : Shape := .record [may "apiVersion" .text, must "fieldPath" .text]

def resourceReference : Shape :=
  .record [may "containerName" .text, may "divisor" .text, must "resource" .text]

def requirement : Shape :=
  .record [must "key" .text, must "operator" .text, may "values" texts]

def labelSelector : Shape :=
  .record [may "matchExpressions" (.list requirement), may "matchLabels" textMap]

def nameAndValue : Shape := .record [must "name" .text, must "value" .text]

/-! ## Scheduling -/

def nodeSelectorTerm : Shape :=
  .record [may "matchExpressions" (.list requirement), may "matchFields" (.list requirement)]

def nodeSelector : Shape := .record [must "nodeSelectorTerms" (.list nodeSelectorTerm)]

def nodeAffinity : Shape := .record [
  may "preferredDuringSchedulingIgnoredDuringExecution"
    (.list (.record [must "preference" nodeSelectorTerm, must "weight" int32])),
  may "requiredDuringSchedulingIgnoredDuringExecution" nodeSelector]

def podAffinityTerm : Shape := .record [
  may "labelSelector" labelSelector, may "matchLabelKeys" texts, may "mismatchLabelKeys" texts,
  may "namespaceSelector" labelSelector, may "namespaces" texts, must "topologyKey" .text]

def podAffinity : Shape := .record [
  may "preferredDuringSchedulingIgnoredDuringExecution"
    (.list (.record [must "podAffinityTerm" podAffinityTerm, must "weight" int32])),
  may "requiredDuringSchedulingIgnoredDuringExecution" (.list podAffinityTerm)]

def affinity : Shape := .record [
  may "nodeAffinity" nodeAffinity, may "podAffinity" podAffinity, may "podAntiAffinity" podAffinity]

def toleration : Shape := .record [
  may "effect" .text, may "key" .text, may "operator" .text, may "tolerationSeconds" int64,
  may "value" .text]

def topologySpread : Shape := .record [
  may "labelSelector" labelSelector, may "matchLabelKeys" texts, must "maxSkew" int32,
  may "minDomains" int32, may "nodeAffinityPolicy" .text, may "nodeTaintsPolicy" .text,
  must "topologyKey" .text, must "whenUnsatisfiable" .text]

/-! ## Containers -/

def envVar : Shape := .record [
  must "name" .text, may "value" .text,
  may "valueFrom" (.record [
    may "configMapKeyRef" keySelector, may "fieldRef" fieldReference,
    may "resourceFieldRef" resourceReference, may "secretKeyRef" keySelector])]

def envSource : Shape := .record [
  may "configMapRef" optionalReference, may "prefix" .text, may "secretRef" optionalReference]

def execAction : Shape := .record [may "command" texts]

def httpAction : Shape := .record [
  may "host" .text, may "httpHeaders" (.list nameAndValue), may "path" .text,
  must "port" .intOrText, may "scheme" .text]

def socketAction : Shape := .record [may "host" .text, must "port" .intOrText]

def lifecycleHandler : Shape := .record [
  may "exec" execAction, may "httpGet" httpAction,
  may "sleep" (.record [must "seconds" int64]), may "tcpSocket" socketAction]

def probe : Shape := .record [
  may "exec" execAction, may "failureThreshold" int32,
  may "grpc" (.record [must "port" int32, may "service" .text]), may "httpGet" httpAction,
  may "initialDelaySeconds" int32, may "periodSeconds" int32, may "successThreshold" int32,
  may "tcpSocket" socketAction, may "terminationGracePeriodSeconds" int64,
  may "timeoutSeconds" int32]

def seLinuxOptions : Shape := .record [
  may "level" .text, may "role" .text, may "type" .text, may "user" .text]

def seccompProfile : Shape := .record [may "localhostProfile" .text, must "type" .text]

def windowsOptions : Shape := .record [
  may "gmsaCredentialSpec" .text, may "gmsaCredentialSpecName" .text, may "hostProcess" .flag,
  may "runAsUserName" .text]

def securityContext : Shape := .record [
  may "allowPrivilegeEscalation" .flag,
  may "capabilities" (.record [may "add" texts, may "drop" texts]),
  may "privileged" .flag, may "procMount" .text, may "readOnlyRootFilesystem" .flag,
  may "runAsGroup" int64, may "runAsNonRoot" .flag, may "runAsUser" int64,
  may "seLinuxOptions" seLinuxOptions, may "seccompProfile" seccompProfile,
  may "windowsOptions" windowsOptions]

def resourceClaims : Shape := .list (.record [must "name" .text])

def resources : Shape := .record [
  may "claims" resourceClaims, may "limits" textMap, may "requests" textMap]

/-- The fields of a container port besides its name and number. -/
def portFields : List (String × Bool × Shape) := [
  may "hostIP" .text, may "hostPort" int32, may "protocol" .text]

/-- The fields of a mount besides its volume and path. -/
def mountFields : List (String × Bool × Shape) := [
  may "mountPropagation" .text, may "readOnly" .flag, may "subPath" .text,
  may "subPathExpr" .text]

/-- The fields of a container besides its name, image, arguments, ports, resources and mounts. -/
def containerFields : List (String × Bool × Shape) := [
  may "command" texts, may "env" (.list envVar), may "envFrom" (.list envSource),
  may "imagePullPolicy" .text,
  may "lifecycle" (.record [may "postStart" lifecycleHandler, may "preStop" lifecycleHandler]),
  may "livenessProbe" probe, may "readinessProbe" probe,
  may "resizePolicy"
    (.list (.record [must "resourceName" .text, must "restartPolicy" .text])),
  may "restartPolicy" .text, may "securityContext" securityContext, may "startupProbe" probe,
  may "stdin" .flag, may "stdinOnce" .flag, may "terminationMessagePath" .text,
  may "terminationMessagePolicy" .text, may "tty" .flag,
  may "volumeDevices" (.list (.record [must "devicePath" .text, must "name" .text])),
  may "workingDir" .text]

/-- A container of which nothing is looked at, with `more` fields. -/
def containerWith (more : List (String × Bool × Shape)) : Shape :=
  .record (containerFields ++ [
    must "name" .text, may "image" .text, may "args" texts,
    may "ports" (.list (.record (must "containerPort" int32 :: may "name" .text :: portFields))),
    may "resources" resources,
    may "volumeMounts"
      (.list (.record (must "mountPath" .text :: must "name" .text :: mountFields)))] ++ more)

/-! ## Volumes -/

def keyToPath : Shape := .record [must "key" .text, may "mode" int32, must "path" .text]

def downwardFile : Shape := .record [
  may "fieldRef" fieldReference, may "mode" int32, must "path" .text,
  may "resourceFieldRef" resourceReference]

/-- The fields of a volume claim's specification besides its resources. -/
def claimSpecFields : List (String × Bool × Shape) := [
  may "accessModes" texts,
  may "dataSource" (.record [may "apiGroup" .text, must "kind" .text, must "name" .text]),
  may "dataSourceRef" (.record [
    may "apiGroup" .text, must "kind" .text, must "name" .text, may "namespace" .text]),
  may "selector" labelSelector, may "storageClassName" .text,
  may "volumeAttributesClassName" .text, may "volumeMode" .text, may "volumeName" .text]

def claimSpec : Shape :=
  .record (may "resources" (.record [may "limits" textMap, may "requests" textMap])
    :: claimSpecFields)

/-- The fields of object metadata that no reader of this program looks at. -/
def metadataFields : List (String × Bool × Shape) := [
  may "creationTimestamp" .time, may "deletionGracePeriodSeconds" int64, may "finalizers" texts,
  may "generateName" .text,
  may "managedFields" (.list (.record [
    may "apiVersion" .text, may "fieldsType" .text, may "fieldsV1" .anything, may "manager" .text,
    may "operation" .text, may "subresource" .text, may "time" .time])),
  may "ownerReferences" (.list (.record [
    must "apiVersion" .text, may "blockOwnerDeletion" .flag, may "controller" .flag,
    must "kind" .text, must "name" .text, must "uid" .text])),
  may "selfLink" .text]

/-- Metadata of which nothing is looked at. -/
def metadata : Shape :=
  .record (metadataFields ++ [
    may "annotations" textMap, may "deletionTimestamp" .time, may "generation" int64,
    may "labels" textMap, may "name" .text, may "namespace" .text, may "resourceVersion" .text,
    may "uid" .text])

def volumeProjection : Shape := .record [
  may "clusterTrustBundle" (.record [
    may "labelSelector" labelSelector, may "name" .text, may "optional" .flag, must "path" .text,
    may "signerName" .text]),
  may "configMap" (.record [
    may "items" (.list keyToPath), may "name" .text, may "optional" .flag]),
  may "downwardAPI" (.record [may "items" (.list downwardFile)]),
  may "secret" (.record [
    may "items" (.list keyToPath), may "name" .text, may "optional" .flag]),
  may "serviceAccountToken" (.record [
    may "audience" .text, may "expirationSeconds" int64, must "path" .text])]

/-- The sources of a volume other than a claim. -/
def volumeFields : List (String × Bool × Shape) := [
  may "awsElasticBlockStore" (.record [
    may "fsType" .text, may "partition" int32, may "readOnly" .flag, must "volumeID" .text]),
  may "azureDisk" (.record [
    may "cachingMode" .text, must "diskName" .text, must "diskURI" .text, may "fsType" .text,
    may "kind" .text, may "readOnly" .flag]),
  may "azureFile" (.record [
    may "readOnly" .flag, must "secretName" .text, must "shareName" .text]),
  may "cephfs" (.record [
    must "monitors" texts, may "path" .text, may "readOnly" .flag, may "secretFile" .text,
    may "secretRef" localReference, may "user" .text]),
  may "cinder" (.record [
    may "fsType" .text, may "readOnly" .flag, may "secretRef" localReference,
    must "volumeID" .text]),
  may "configMap" (.record [
    may "defaultMode" int32, may "items" (.list keyToPath), may "name" .text,
    may "optional" .flag]),
  may "csi" (.record [
    must "driver" .text, may "fsType" .text, may "nodePublishSecretRef" localReference,
    may "readOnly" .flag, may "volumeAttributes" textMap]),
  may "downwardAPI" (.record [may "defaultMode" int32, may "items" (.list downwardFile)]),
  may "emptyDir" (.record [may "medium" .text, may "sizeLimit" .text]),
  may "ephemeral" (.record [
    may "volumeClaimTemplate" (.record [may "metadata" metadata, must "spec" claimSpec])]),
  may "fc" (.record [
    may "fsType" .text, may "lun" int32, may "readOnly" .flag, may "targetWWNs" texts,
    may "wwids" texts]),
  may "flexVolume" (.record [
    must "driver" .text, may "fsType" .text, may "options" textMap, may "readOnly" .flag,
    may "secretRef" localReference]),
  may "flocker" (.record [may "datasetName" .text, may "datasetUUID" .text]),
  may "gcePersistentDisk" (.record [
    may "fsType" .text, may "partition" int32, must "pdName" .text, may "readOnly" .flag]),
  may "gitRepo" (.record [may "directory" .text, must "repository" .text, may "revision" .text]),
  may "glusterfs" (.record [must "endpoints" .text, must "path" .text, may "readOnly" .flag]),
  may "hostPath" (.record [must "path" .text, may "type" .text]),
  may "iscsi" (.record [
    may "chapAuthDiscovery" .flag, may "chapAuthSession" .flag, may "fsType" .text,
    may "initiatorName" .text, must "iqn" .text, may "iscsiInterface" .text, must "lun" int32,
    may "portals" texts, may "readOnly" .flag, may "secretRef" localReference,
    must "targetPortal" .text]),
  may "nfs" (.record [must "path" .text, may "readOnly" .flag, must "server" .text]),
  may "photonPersistentDisk" (.record [may "fsType" .text, must "pdID" .text]),
  may "portworxVolume" (.record [
    may "fsType" .text, may "readOnly" .flag, must "volumeID" .text]),
  may "projected" (.record [may "defaultMode" int32, may "sources" (.list volumeProjection)]),
  may "quobyte" (.record [
    may "group" .text, may "readOnly" .flag, must "registry" .text, may "tenant" .text,
    may "user" .text, must "volume" .text]),
  may "rbd" (.record [
    may "fsType" .text, must "image" .text, may "keyring" .text, must "monitors" texts,
    may "pool" .text, may "readOnly" .flag, may "secretRef" localReference, may "user" .text]),
  may "scaleIO" (.record [
    may "fsType" .text, must "gateway" .text, may "protectionDomain" .text, may "readOnly" .flag,
    must "secretRef" localReference, may "sslEnabled" .flag, may "storageMode" .text,
    may "storagePool" .text, must "system" .text, may "volumeName" .text]),
  may "secret" (.record [
    may "defaultMode" int32, may "items" (.list keyToPath), may "optional" .flag,
    may "secretName" .text]),
  may "storageos" (.record [
    may "fsType" .text, may "readOnly" .flag, may "secretRef" localReference,
    may "volumeName" .text, may "volumeNamespace" .text]),
  may "vsphereVolume" (.record [
    may "fsType" .text, may "storagePolicyID" .text, may "storagePolicyName" .text,
    must "volumePath" .text])]

/-! ## Pods -/

/-- The fields of a pod's specification besides its containers, volumes, host name, node, node
selector, affinity and tolerations. -/
def podSpecFields : List (String × Bool × Shape) := [
  may "activeDeadlineSeconds" int64, may "automountServiceAccountToken" .flag,
  may "dnsConfig" (.record [
    may "nameservers" texts,
    may "options" (.list (.record [may "name" .text, may "value" .text])),
    may "searches" texts]),
  may "dnsPolicy" .text, may "enableServiceLinks" .flag,
  may "ephemeralContainers" (.list (containerWith [may "targetContainerName" .text])),
  may "hostAliases" (.list (.record [may "hostnames" texts, may "ip" .text])),
  may "hostIPC" .flag, may "hostNetwork" .flag, may "hostPID" .flag, may "hostUsers" .flag,
  may "imagePullSecrets" (.list localReference), may "initContainers" (.list (containerWith [])),
  may "os" (.record [must "name" .text]), may "overhead" textMap, may "preemptionPolicy" .text,
  may "priority" int32, may "priorityClassName" .text,
  may "readinessGates" (.list (.record [must "conditionType" .text])),
  may "resourceClaims" (.list (.record [
    must "name" .text,
    may "source" (.record [
      may "resourceClaimName" .text, may "resourceClaimTemplateName" .text])])),
  may "restartPolicy" .text, may "runtimeClassName" .text, may "schedulerName" .text,
  may "schedulingGates" (.list (.record [must "name" .text])),
  may "securityContext" (.record [
    may "fsGroup" int64, may "fsGroupChangePolicy" .text, may "runAsGroup" int64,
    may "runAsNonRoot" .flag, may "runAsUser" int64, may "seLinuxOptions" seLinuxOptions,
    may "seccompProfile" seccompProfile, may "supplementalGroups" (.list int64),
    may "sysctls" (.list nameAndValue), may "windowsOptions" windowsOptions]),
  may "serviceAccount" .text, may "serviceAccountName" .text, may "setHostnameAsFQDN" .flag,
  may "shareProcessNamespace" .flag, may "subdomain" .text,
  may "terminationGracePeriodSeconds" int64,
  may "topologySpreadConstraints" (.list topologySpread)]

def containerState : Shape := .record [
  may "running" (.record [may "startedAt" .time]),
  may "terminated" (.record [
    may "containerID" .text, must "exitCode" int32, may "finishedAt" .time, may "message" .text,
    may "reason" .text, may "signal" int32, may "startedAt" .time]),
  may "waiting" (.record [may "message" .text, may "reason" .text])]

def containerStatus : Shape := .record [
  may "allocatedResources" textMap, may "containerID" .text, must "image" .text,
  must "imageID" .text, may "lastState" containerState, must "name" .text, must "ready" .flag,
  may "resources" resources, must "restartCount" int32, may "started" .flag,
  may "state" containerState]

/-- The fields of a pod's status besides its phase and conditions. -/
def podStatusFields : List (String × Bool × Shape) := [
  may "containerStatuses" (.list containerStatus),
  may "ephemeralContainerStatuses" (.list containerStatus), may "hostIP" .text,
  may "hostIPs" (.list (.record [may "ip" .text])),
  may "initContainerStatuses" (.list containerStatus), may "message" .text,
  may "nominatedNodeName" .text, may "podIP" .text,
  may "podIPs" (.list (.record [may "ip" .text])), may "qosClass" .text, may "reason" .text,
  may "resize" .text,
  may "resourceClaimStatuses" (.list (.record [
    must "name" .text, may "resourceClaimName" .text])),
  may "startTime" .time]

/-- The fields of a condition besides its type, status and last transition. -/
def conditionFields : List (String × Bool × Shape) := [
  may "lastProbeTime" .time, may "message" .text, may "reason" .text]

/-! ## Claims and config maps -/

/-- The fields of a claim's status besides its phase and conditions. -/
def claimStatusFields : List (String × Bool × Shape) := [
  may "accessModes" texts, may "allocatedResourceStatuses" textMap,
  may "allocatedResources" textMap, may "capacity" textMap,
  may "currentVolumeAttributesClassName" .text,
  may "modifyVolumeStatus" (.record [
    must "status" .text, may "targetVolumeAttributesClassName" .text])]

/-- The fields of a config map besides its data. -/
def configMapFields : List (String × Bool × Shape) := [
  may "binaryData" (.map .bytes), may "immutable" .flag]

/-- The fields of a list's metadata. -/
def listMetadata : Shape := .record [
  may "continue" .text, may "remainingItemCount" int64, may "resourceVersion" .text,
  may "selfLink" .text]

end TabletFleet.Shape
