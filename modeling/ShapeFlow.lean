import ShapeFlow.Binary.Rounding
import ShapeFlow.Binary.Shortest
import ShapeFlow.Binary.Single
import ShapeFlow.Caseless
import ShapeFlow.CommandLine.Arguments
import ShapeFlow.CommandLine.Program
import ShapeFlow.Description.Basic
import ShapeFlow.Description.Json
import ShapeFlow.Dictionary
import ShapeFlow.Engine.Error
import ShapeFlow.Engine.Launcher
import ShapeFlow.Engine.Propagator
import ShapeFlow.Engine.Registry
import ShapeFlow.Engine.Reshaper
import ShapeFlow.Engine.Role
import ShapeFlow.Journal
import ShapeFlow.Json.Number
import ShapeFlow.Json.Printer
import ShapeFlow.Json.Reader
import ShapeFlow.Json.Value
import ShapeFlow.Main
import ShapeFlow.Network.Basic
import ShapeFlow.Network.Error
import ShapeFlow.Network.Layer
import ShapeFlow.Network.Order
import ShapeFlow.Network.Snapshot
import ShapeFlow.Rule.Arrangement
import ShapeFlow.Rule.Basic
import ShapeFlow.Rule.BuiltIn
import ShapeFlow.Rule.Parameter
import ShapeFlow.Rule.Pointwise
import ShapeFlow.Rule.Window
import ShapeFlow.Run.Config
import ShapeFlow.Run.Infer
import ShapeFlow.Run.Mode
import ShapeFlow.Shape
import ShapeFlow.Table
import ShapeFlow.Tensor
import ShapeFlow.Text.Blank
import ShapeFlow.Text.Numeral
import ShapeFlow.Text.Printable
import ShapeFlow.Text.Quoted
import ShapeFlow.Proofs.Outcome
import ShapeFlow.Proofs.Table
import ShapeFlow.Proofs.Caseless
import ShapeFlow.Proofs.HashTable
import ShapeFlow.Proofs.Caseless.Stream
import ShapeFlow.Proofs.Network.Skeleton
import ShapeFlow.Proofs.Network.WellFormed
import ShapeFlow.Proofs.Network.Order
import ShapeFlow.Proofs.Network.Built
import ShapeFlow.Proofs.Engine.Registry
import ShapeFlow.Proofs.Engine.Scratch
import ShapeFlow.Proofs.Engine.Propagation
import ShapeFlow.Proofs.Engine.Launcher
import ShapeFlow.Proofs.Engine.WriteBack
import ShapeFlow.Proofs.Engine.Construction
import ShapeFlow.Proofs.Engine.Seeding
import ShapeFlow.Proofs.Engine.Pull
import ShapeFlow.Proofs.Engine.Outputs
import ShapeFlow.Proofs.Engine.Consistency
import ShapeFlow.Proofs.Engine.Atomicity
import ShapeFlow.Proofs.Engine.Comparison
import ShapeFlow.Proofs.Engine.Agreement
import ShapeFlow.Proofs.Network.Cycle
import ShapeFlow.Proofs.Network.Parts
import ShapeFlow.Proofs.Network.History
import ShapeFlow.Proofs.Engine.Settled
import ShapeFlow.Proofs.Engine.FixedPoint
import ShapeFlow.Proofs.Engine.Solution
import ShapeFlow.Proofs.Engine.Repetition
import ShapeFlow.Proofs.Engine.Extension
import ShapeFlow.Proofs.Engine.RegistryHistory
import ShapeFlow.Proofs.Json.Number
import ShapeFlow.Proofs.Json.RoundTrip
import ShapeFlow.Proofs.Description.Records
import ShapeFlow.Proofs.Description.RoundTrip
import ShapeFlow.Proofs.Engine.Rebinding
import ShapeFlow.Proofs.Network.Reordered
import ShapeFlow.Proofs.Engine.InsertionOrder
import ShapeFlow.Proofs.Engine.Acceptance
import ShapeFlow.Proofs.Description.Faults
import ShapeFlow.Proofs.Binary.Rounding
import ShapeFlow.Proofs.Json.Magnitude
import ShapeFlow.Proofs.Description.Reread
import ShapeFlow.Proofs.Engine.Independence
import ShapeFlow.Proofs.Engine.ReshaperHistory
import ShapeFlow.Proofs.Shape
import ShapeFlow.Proofs.Rule.Parameter
import ShapeFlow.Proofs.Rule.Window
import ShapeFlow.Proofs.Rule.Reshape
import ShapeFlow.Proofs.Engine.Ending
import ShapeFlow.Proofs.Engine.Guard
import ShapeFlow.Proofs.Engine.Refusal
import ShapeFlow.Proofs.Engine.Uniform
import ShapeFlow.Proofs.Rule.Concat
import ShapeFlow.Proofs.Dictionary
import ShapeFlow.Proofs.Rule.Permute
import ShapeFlow.Proofs.CommandLine.Program
import ShapeFlow.Proofs.CommandLine.Report
import ShapeFlow.Proofs.Text.Numeral
import ShapeFlow.Proofs.Run.ShapeText
import ShapeFlow.Proofs.Network.Snapshot
import ShapeFlow.Proofs.InPlace
import ShapeFlow.Proofs.Engine.LauncherHistory
import ShapeFlow.Proofs.Engine.Draft
import ShapeFlow.Proofs.Engine.ExtensionSet
import ShapeFlow.Proofs.Engine.LauncherSetHistory
