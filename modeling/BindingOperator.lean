import BindingOperator.Api.Client
import BindingOperator.Api.Discovery
import BindingOperator.Api.Mapper
import BindingOperator.Api.Recorder
import BindingOperator.Api.Request
import BindingOperator.Binding
import BindingOperator.Cluster.Fault
import BindingOperator.Cluster.InMemory
import BindingOperator.Cluster.InMemoryWebhooks
import BindingOperator.Cluster.Script
import BindingOperator.Cluster.Scripted
import BindingOperator.Condition
import BindingOperator.Controller.Action
import BindingOperator.Controller.Call
import BindingOperator.Controller.Reconcile
import BindingOperator.Controller.Resolution
import BindingOperator.Controller.Stage
import BindingOperator.Definition.Binding
import BindingOperator.Definition.Schema
import BindingOperator.Dialogue
import BindingOperator.Event
import BindingOperator.Failure
import BindingOperator.Http.MediaType
import BindingOperator.Http.Message
import BindingOperator.Http.StatusPhrase
import BindingOperator.Instant
import BindingOperator.Json.Basic
import BindingOperator.Json.Block
import BindingOperator.Json.Loose
import BindingOperator.Json.Merge
import BindingOperator.Json.Misfit
import BindingOperator.Json.Number
import BindingOperator.Json.Patch
import BindingOperator.Json.Printer
import BindingOperator.Json.Reader
import BindingOperator.Json.Record
import BindingOperator.Kind
import BindingOperator.Main
import BindingOperator.Metadata
import BindingOperator.Object
import BindingOperator.Power
import BindingOperator.Program.CommandLine
import BindingOperator.Program.Environment
import BindingOperator.Program.File
import BindingOperator.Program.Kubeconfig
import BindingOperator.Program.LogFilter
import BindingOperator.Program.LogFormat
import BindingOperator.Program.Settings
import BindingOperator.Program.SocketAddress
import BindingOperator.Program.Startup
import BindingOperator.Program.Tls
import BindingOperator.Program.Usage
import BindingOperator.Projection.Container
import BindingOperator.Projection.Fixed
import BindingOperator.Projection.Imprint
import BindingOperator.Projection.Ledger
import BindingOperator.Projection.Projector
import BindingOperator.Projection.Template
import BindingOperator.Proofs.Accounts
import BindingOperator.Proofs.Admission
import BindingOperator.Proofs.Bookkeeping
import BindingOperator.Proofs.Clusters
import BindingOperator.Proofs.CompactText
import BindingOperator.Proofs.Completeness
import BindingOperator.Proofs.Concurrency
import BindingOperator.Proofs.Conditions
import BindingOperator.Proofs.CopyWrites
import BindingOperator.Proofs.Departure
import BindingOperator.Proofs.Dialogues
import BindingOperator.Proofs.Documents
import BindingOperator.Proofs.ExactSelections
import BindingOperator.Proofs.FinalizerRelease
import BindingOperator.Proofs.HalfWritten
import BindingOperator.Proofs.Idempotence
import BindingOperator.Proofs.IdleDeletion
import BindingOperator.Proofs.InPlace
import BindingOperator.Proofs.InjectedRoots
import BindingOperator.Proofs.Interception
import BindingOperator.Proofs.KeptRecords
import BindingOperator.Proofs.Lasting
import BindingOperator.Proofs.Lifetimes
import BindingOperator.Proofs.Matching
import BindingOperator.Proofs.Outages
import BindingOperator.Proofs.Passes
import BindingOperator.Proofs.Patches
import BindingOperator.Proofs.Projection.Again
import BindingOperator.Proofs.Projection.ContainerLists
import BindingOperator.Proofs.Projection.Containers
import BindingOperator.Proofs.Projection.Entries
import BindingOperator.Proofs.Projection.Fields
import BindingOperator.Proofs.Projection.LayeredSpecs
import BindingOperator.Proofs.Projection.LayeredTemplates
import BindingOperator.Proofs.Projection.Layers
import BindingOperator.Proofs.Projection.Names
import BindingOperator.Proofs.Projection.Removal
import BindingOperator.Proofs.Projection.Templates
import BindingOperator.Proofs.Projection.Variables
import BindingOperator.Proofs.Projection.Workloads
import BindingOperator.Proofs.Readiness
import BindingOperator.Proofs.Reading
import BindingOperator.Proofs.Readmission
import BindingOperator.Proofs.ReadySync
import BindingOperator.Proofs.RecordForms
import BindingOperator.Proofs.RecordTexts
import BindingOperator.Proofs.Recording
import BindingOperator.Proofs.RepeatedKeys
import BindingOperator.Proofs.Repetition
import BindingOperator.Proofs.Reporting
import BindingOperator.Proofs.RoundTrip
import BindingOperator.Proofs.SecretlessPasses
import BindingOperator.Proofs.Selections
import BindingOperator.Proofs.SharedMapper
import BindingOperator.Proofs.SharedTemplates
import BindingOperator.Proofs.Shares
import BindingOperator.Proofs.Snapshots
import BindingOperator.Proofs.Stages
import BindingOperator.Proofs.StatusPatches
import BindingOperator.Proofs.SteadyState
import BindingOperator.Proofs.Succession
import BindingOperator.Proofs.Synchronisation
import BindingOperator.Proofs.Tables
import BindingOperator.Proofs.Touches
import BindingOperator.Proofs.TransitionTimes
import BindingOperator.Proofs.Undisturbed
import BindingOperator.Proofs.Versions
import BindingOperator.Proofs.WriteOrder
import BindingOperator.Proofs.Writes
import BindingOperator.Selector
import BindingOperator.Table
import BindingOperator.Text.Base64
import BindingOperator.Text.Blank
import BindingOperator.Text.FormEncoded
import BindingOperator.Text.Invisible
import BindingOperator.Text.Letters
import BindingOperator.Text.Quoted
import BindingOperator.Text.Similarity
import BindingOperator.Watch.Agenda
import BindingOperator.Watch.ControlLoop
import BindingOperator.Watch.Event
import BindingOperator.Watch.Rehearsal
import BindingOperator.Watch.Scope
import BindingOperator.Watch.Store
import BindingOperator.Watch.Watcher
import BindingOperator.Webhook.Admission
import BindingOperator.Webhook.Configuration
import BindingOperator.Webhook.Endpoint
import BindingOperator.Webhook.Kinds
import BindingOperator.Webhook.Review
import BindingOperator.Webhook.Rule
import BindingOperator.Webhook.Sync
