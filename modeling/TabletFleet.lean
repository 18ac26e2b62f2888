import TabletFleet.Api.Client
import TabletFleet.Api.Message
import TabletFleet.Api.Target
import TabletFleet.Cli.Arguments
import TabletFleet.Cli.Commands
import TabletFleet.Cluster.Claim
import TabletFleet.Cluster.ConfigMap
import TabletFleet.Cluster.ManagedObject
import TabletFleet.Cluster.ObjectMeta
import TabletFleet.Cluster.Parts
import TabletFleet.Cluster.Pod
import TabletFleet.Cluster.Shape
import TabletFleet.Cluster.Shape.Table
import TabletFleet.Document
import TabletFleet.Json.Basic
import TabletFleet.Json.Changes
import TabletFleet.Json.Double
import TabletFleet.Json.Parser
import TabletFleet.Json.Printer
import TabletFleet.Json.Source
import TabletFleet.Labels
import TabletFleet.Main
import TabletFleet.Markers
import TabletFleet.OrdMap
import TabletFleet.Pass.Availability
import TabletFleet.Pass.ShardPass
import TabletFleet.Pass.State
import TabletFleet.Pass.Strategies
import TabletFleet.Pass.Turndown
import TabletFleet.Proofs.AliasText
import TabletFleet.Proofs.Calendar
import TabletFleet.Proofs.ChangeReport
import TabletFleet.Proofs.Cluster.PartsReadBack
import TabletFleet.Proofs.Cluster.WrittenForm
import TabletFleet.Proofs.DataVolumes
import TabletFleet.Proofs.Document
import TabletFleet.Proofs.DrainHistory
import TabletFleet.Proofs.EngineAccounting
import TabletFleet.Proofs.FailuresReported
import TabletFleet.Proofs.FaultIsolation
import TabletFleet.Proofs.FirstPass
import TabletFleet.Proofs.KeyedStore
import TabletFleet.Proofs.LowWaterMark
import TabletFleet.Proofs.LowestGeneration
import TabletFleet.Proofs.Pass.Journal
import TabletFleet.Proofs.Pass.OverSlots
import TabletFleet.Proofs.Pass.Unwanted
import TabletFleet.Proofs.PodUpdates
import TabletFleet.Proofs.PoolEdits
import TabletFleet.Proofs.Quantity.Spelling
import TabletFleet.Proofs.QuantityReading
import TabletFleet.Proofs.Readiness
import TabletFleet.Proofs.Reconcile.Journal
import TabletFleet.Proofs.RecreationSettles
import TabletFleet.Proofs.RestartDetection
import TabletFleet.Proofs.RunningObjects
import TabletFleet.Proofs.SettingPrecedence
import TabletFleet.Proofs.ShardIsolation
import TabletFleet.Proofs.ShardResource
import TabletFleet.Proofs.ShardsCommute
import TabletFleet.Proofs.SnapshotPrimary
import TabletFleet.Proofs.StatusLists
import TabletFleet.Proofs.SteadyState
import TabletFleet.Proofs.StorageGrowth
import TabletFleet.Proofs.Store.TypedView
import TabletFleet.Proofs.Tablet.Alias
import TabletFleet.Proofs.Tablet.Places
import TabletFleet.Proofs.TabletIdentity
import TabletFleet.Proofs.TabletsApart
import TabletFleet.Proofs.TimestampText
import TabletFleet.Proofs.TurndownGates
import TabletFleet.Proofs.TurndownSafety
import TabletFleet.Quantity
import TabletFleet.Reconcile.ObjectSet
import TabletFleet.Reconcile.Report
import TabletFleet.Shard.Resource
import TabletFleet.Shard.Spec
import TabletFleet.Shard.Status
import TabletFleet.Store.Basic
import TabletFleet.Store.Memory
import TabletFleet.Store.Slots
import TabletFleet.Store.Table
import TabletFleet.Tablet.Alias
import TabletFleet.Tablet.Objects
import TabletFleet.Tablet.Spec
import TabletFleet.Text.Hidden
import TabletFleet.Text.Numeral
import TabletFleet.Timestamp
import TabletFleet.Topology
import TabletFleet.Yaml.Cursor
import TabletFleet.Yaml.Document
import TabletFleet.Yaml.Node
import TabletFleet.Yaml.Scalar
import TabletFleet.Yaml.Token
