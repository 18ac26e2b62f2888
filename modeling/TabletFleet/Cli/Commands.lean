import TabletFleet.Cli.Arguments
import TabletFleet.Json.Printer
import TabletFleet.Pass.ShardPass
import TabletFleet.Shard.Resource
import TabletFleet.Yaml.Document

set_option autoImplicit false

/-! # Commands

The commands read shard manifests and topology snapshots, both in YAML. They print the tablets that a shard
comes to, and the status that a pass reports: tables have columns of fixed width, which longer cells push
to the right; JSON has a line for each member. A dry run makes passes over objects in memory. -/

namespace TabletFleet

/-! ## Files -/

/-- The shard of a manifest. -/
def Shard.ofManifest? (text : String) : Option Shard :=
  (Yaml.Node.document? text).bind Shard.ofDocument?

/-- Why a text is no topology snapshot. -/
inductive SnapshotError where
  /-- It is no list of entries. -/
  | unreadable
  | invalidAlias (e : InvalidAlias)
deriving DecidableEq, Inhabited

/-- The topology of a snapshot. All of it is read before any alias is looked at. -/
def Topology.ofSnapshot (text : String) : Except SnapshotError Topology :=
  match (Yaml.Node.document? text).bind (Document.list? SnapshotEntry.ofDocument?) with
  | none => .error .unreadable
  | some entries => (Topology.ofEntries entries).mapError .invalidAlias

end TabletFleet

namespace TabletFleet.Text

/-! ## Columns

Cells of a text table: filled up with spaces to a width counted in characters, never cut. -/

/-- Fill up with spaces on the right. -/
def padRight (width : Nat) (s : String) : String :=
  s ++ String.ofList (List.replicate (width - s.length) ' ')

/-- Fill up with spaces on the left. -/
def padLeft (width : Nat) (s : String) : String :=
  String.ofList (List.replicate (width - s.length) ' ') ++ s

end TabletFleet.Text

namespace TabletFleet.Cli

open TabletFleet.Text (padLeft padRight)

/-- Lines with their ends. -/
def lines (l : List String) : String := String.join (l.map (· ++ "\n"))

/-! ## Plans -/

/-- A line of the plan. -/
def planLine (aliasText type index name claim : String) : String :=
  padRight 22 aliasText ++ " " ++ padRight 16 type ++ " " ++ padLeft 5 index ++ "  "
    ++ padRight 44 name ++ " " ++ claim

/-- The line of a tablet. -/
def planRow (t : TabletSpec) : String :=
  planLine t.identity.text t.type.name (toString t.index) t.name
    (if t.claimTemplate.isSome then "yes" else "-")

def planTable (tablets : List TabletSpec) : List String :=
  planLine "ALIAS" "TYPE" "INDEX" "NAME" "CLAIM" :: tablets.map planRow

def planJson (t : TabletSpec) : Json :=
  .object [
    ("alias", .str t.identity.text), ("type", .str t.type.name), ("index", .int t.index),
    ("name", .str t.name),
    ("zone", match t.zone with
      | some zone => .str zone
      | none => .null),
    ("labels", .ofStringMap t.labels), ("annotations", .ofStringMap t.annotations),
    ("extraFlags", .ofStringMap t.extraFlags), ("dataVolume", .bool t.claimTemplate.isSome)]

/-- The tablets that a shard comes to. -/
def plan (format : Format) (s : Shard) : String :=
  match format with
  | .human => lines (planTable s.tablets)
  | .json => lines [(Json.arr (s.tablets.map planJson)).pretty]

/-! ## Status -/

/-- A line of the status. -/
def statusLine (aliasText type index running ready available bound pending : String) : String :=
  padRight 22 aliasText ++ " " ++ padRight 16 type ++ " " ++ padLeft 5 index ++ "  "
    ++ padRight 8 running ++ " " ++ padRight 8 ready ++ " " ++ padRight 9 available ++ " "
    ++ padRight 8 bound ++ " " ++ pending

/-- The lines of a tablet. -/
def statusRows (aliasText : String) (t : TabletStatus) : List String :=
  let row := statusLine aliasText t.type.name (toString t.index.toInt) t.running.name t.ready.name
    t.available.name t.dataVolumeBound.name (if t.pendingChanges.isEmpty then "-" else t.pendingChanges)
  match t.lastError with
  | none => [row]
  | some e => [row, "  error: " ++ e]

/-- The line of an unwanted tablet that is kept. -/
def orphanRow (aliasText : String) (o : OrphanStatus) : String :=
  "orphan " ++ padRight 22 aliasText ++ " " ++ padRight 16 o.reason ++ " " ++ o.message

def statusTable (s : ShardStatus) : List String :=
  ["cells: " ++ ",".intercalate s.cells,
    "lowest pod generation: " ++ toString s.lowestPodGeneration.toInt,
    statusLine "ALIAS" "TYPE" "INDEX" "RUNNING" "READY" "AVAILABLE" "BOUND" "PENDING"]
    ++ s.tablets.toList.flatMap (fun e => statusRows e.1 e.2)
    ++ s.orphanedTablets.toList.map fun e => orphanRow e.1 e.2

/-- A shard's status. -/
def status (format : Format) (s : ShardStatus) : String :=
  match format with
  | .human => lines (statusTable s)
  | .json => lines [s.listing.pretty]

/-! ## Dry runs

A pass prints the status that it reports, and the next pass starts from that status. -/

/-- What a pass prints, and what follows from it. -/
structure PassOutput where
  text : String
  error : Option String
  /-- The shard with its new status. -/
  shard : Shard
  /-- When the pass asks for another one. -/
  requeueAfter : Option Duration
deriving Inhabited

/-- Run one pass. -/
def dryRun (format : Format) (shard : Shard) (topology : Topology) (config : PassConfig)
    (now : Timestamp) : StateM MemoryStore PassOutput := do
  let report ← shard.reconcileAt topology config now
  return {
    text := status format report.status
    error := report.result.error?.map ("reconcile failed: " ++ ·)
    shard := { shard with status := report.status }
    requeueAfter := report.result.requeueAfter }

/-- How long to wait for the next pass: no longer than the given time. -/
def PassOutput.wait (p : PassOutput) (interval : Duration) : Duration :=
  match p.requeueAfter with
  | some d => d.shorter interval
  | none => interval

end TabletFleet.Cli
