import FrameMachine.Characters
import FrameMachine.Decimal
import FrameMachine.Value
import FrameMachine.Fault
import FrameMachine.Outcome
import FrameMachine.Locals
import FrameMachine.Instruction
import FrameMachine.Instruction.Text
import FrameMachine.Instruction.Dump
import FrameMachine.Trace
import FrameMachine.Log
import FrameMachine.Machine
import FrameMachine.Frame
import FrameMachine.Binary64
import FrameMachine.Json.Basic
import FrameMachine.Json.Token
import FrameMachine.Json.Syntax
import FrameMachine.Json.Printer
import FrameMachine.Json.Tagged
import FrameMachine.Value.Json
import FrameMachine.Outcome.Json
import FrameMachine.Instruction.Json
import FrameMachine.Configuration.Basic
import FrameMachine.FunctionBody
import FrameMachine.FunctionBody.Json
import FrameMachine.Binary64.Text
import FrameMachine.Configuration.Setting
import FrameMachine.Toml.Text
import FrameMachine.Toml.Moment
import FrameMachine.Toml.Scalar
import FrameMachine.Toml.Table
import FrameMachine.Toml.Document
import FrameMachine.Environment
import FrameMachine.Directory
import FrameMachine.Configuration.Dotenv
import FrameMachine.Configuration.Variables
import FrameMachine.Configuration.Resolve
import FrameMachine.CommandLine.Arguments
import FrameMachine.CommandLine.Perform
import FrameMachine.Main
import FrameMachine.Alphanumeric
import FrameMachine.Configuration.Document
import FrameMachine.Proofs.Execution
import FrameMachine.Proofs.TraceOrder
import FrameMachine.Proofs.Nesting
import FrameMachine.Proofs.Replay
import FrameMachine.Proofs.StoreInvariant
import FrameMachine.Proofs.WellFormed
import FrameMachine.Proofs.DepthLimit
import FrameMachine.Proofs.FaultCause
import FrameMachine.Proofs.Footprint
import FrameMachine.Proofs.Observation
import FrameMachine.Proofs.Composition
import FrameMachine.Proofs.Decoding
import FrameMachine.Proofs.JsonTokens
import FrameMachine.Proofs.JsonTree
import FrameMachine.Proofs.StoredBody
import FrameMachine.Proofs.Unconfigured
import FrameMachine.Proofs.Lines
import FrameMachine.Proofs.RunCommand
import FrameMachine.Proofs.Assignment
import FrameMachine.Proofs.ValuesBelow
import FrameMachine.Proofs.Arithmetic
import FrameMachine.Proofs.Independence
import FrameMachine.Proofs.PopulatedStore
import FrameMachine.Proofs.RemainingDepth
import FrameMachine.Proofs.ValueTypes
import FrameMachine.Proofs.DepthCounter
import FrameMachine.Proofs.Documents
import FrameMachine.Proofs.Layers
import FrameMachine.Proofs.RenderedConfiguration
import FrameMachine.Proofs.PositionalForms
import FrameMachine.Proofs.Rearrangement
import FrameMachine.Proofs.UniqueReading
