import MavBridge.Bridge.Rehearsal
import MavBridge.Bridge.Shared
import MavBridge.Device.Scripted
import MavBridge.Main
import MavBridge.Message.Fields
import MavBridge.Param.Record
import MavBridge.Param.Rehearsal
import MavBridge.Router.Rehearsal
import MavBridge.Proofs.Bridge.Pipeline
import MavBridge.Proofs.Frame.Chunking
import MavBridge.Proofs.Frame.Framing
import MavBridge.Proofs.Link.Replay
import MavBridge.Proofs.Message.Belonging
import MavBridge.Proofs.Message.Bytewise
import MavBridge.Proofs.Output.FanOut
import MavBridge.Proofs.Param.Correlation
import MavBridge.Proofs.Param.Echoes
import MavBridge.Proofs.Param.Answering
import MavBridge.Proofs.Param.Batches
import MavBridge.Proofs.Param.Exclusion
import MavBridge.Proofs.Router.Registry
import MavBridge.Proofs.Sending
import MavBridge.Proofs.Telemetry
import MavBridge.Proofs.Bridge.Sessions
import MavBridge.Proofs.Bridge.Connecting
import MavBridge.Proofs.Bridge.Lifecycle
import MavBridge.Proofs.Bridge.Asking
import MavBridge.Proofs.Output.Starting
import MavBridge.Proofs.Output.Stopping
import MavBridge.Proofs.Link.Reading
import MavBridge.Proofs.Bridge.Relaying
import MavBridge.Proofs.Router.Deliveries
import MavBridge.Proofs.Router.Statistics
import MavBridge.Proofs.Message.WireForm
import MavBridge.Proofs.Output.Client
import MavBridge.Router.Guarded
import MavBridge.Proofs.Router.Announcing
import MavBridge.Proofs.Json.Tokens
import MavBridge.Proofs.Json.Writing
import MavBridge.Proofs.Text.Utf8
import MavBridge.Proofs.Text.NameField
import MavBridge.Proofs.Json.Reading
import MavBridge.Proofs.Output.Config
import MavBridge.Proofs.Store.FileSystem
import MavBridge.Proofs.Store.OutputFile
import MavBridge.Proofs.Frame.Resynchronisation
import MavBridge.Proofs.Number.Value
import MavBridge.Proofs.Number.Rounding
import MavBridge.Proofs.Param.Verification
import MavBridge.Proofs.Router.Restoring
import MavBridge.Proofs.Events
import MavBridge.Proofs.Store.Replacing
import MavBridge.Proofs.Output.Departures
import MavBridge.Proofs.Router.Updating
import MavBridge.Proofs.Link.Writing
import MavBridge.Proofs.Param.Interludes
import MavBridge.Proofs.Param.Turns
import MavBridge.Proofs.Toml.Text
import MavBridge.Proofs.Toml.Scalar
import MavBridge.Proofs.Toml.Document
import MavBridge.Proofs.Toml.Tables
import MavBridge.Proofs.Settings.File
