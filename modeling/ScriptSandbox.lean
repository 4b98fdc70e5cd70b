import ScriptSandbox.Config.Basic
import ScriptSandbox.Config.Decoding
import ScriptSandbox.Config.Expansion
import ScriptSandbox.Config.Flag
import ScriptSandbox.Config.Flags
import ScriptSandbox.Config.Listening
import ScriptSandbox.Config.Source
import ScriptSandbox.Config.Usage
import ScriptSandbox.Decimal.Layout
import ScriptSandbox.Decimal.Shortest
import ScriptSandbox.Evaluation.Outcome
import ScriptSandbox.Evaluation.Response
import ScriptSandbox.Files.Image
import ScriptSandbox.Files.Tree
import ScriptSandbox.Http.Message
import ScriptSandbox.Http.Router
import ScriptSandbox.Http.Target
import ScriptSandbox.Json.Basic
import ScriptSandbox.Json.Mistake
import ScriptSandbox.Json.Number
import ScriptSandbox.Json.Reader
import ScriptSandbox.Json.Writer
import ScriptSandbox.Log
import ScriptSandbox.Main
import ScriptSandbox.Mcp.Answer
import ScriptSandbox.Mcp.Message
import ScriptSandbox.Mcp.Server
import ScriptSandbox.Mcp.Shape
import ScriptSandbox.Mcp.Version
import ScriptSandbox.Net.Address
import ScriptSandbox.Net.Listening
import ScriptSandbox.Net.Reader
import ScriptSandbox.Os.Failure
import ScriptSandbox.Proofs.Evaluation.Output
import ScriptSandbox.Proofs.Evaluation.RoundTrip
import ScriptSandbox.Proofs.Evaluation.Variants
import ScriptSandbox.Proofs.Json.Documents
import ScriptSandbox.Proofs.Json.Grammar
import ScriptSandbox.Proofs.Json.Merging
import ScriptSandbox.Proofs.Json.Printing
import ScriptSandbox.Proofs.Json.Strings
import ScriptSandbox.Proofs.Json.Tokens
import ScriptSandbox.Proofs.Sandbox.Cancellation
import ScriptSandbox.Proofs.Sandbox.Contexts
import ScriptSandbox.Proofs.Sandbox.Interruptions
import ScriptSandbox.Proofs.Sandbox.Later
import ScriptSandbox.Proofs.Sandbox.Ledger
import ScriptSandbox.Proofs.Sandbox.LiveInstances
import ScriptSandbox.Proofs.Sandbox.Operations
import ScriptSandbox.Proofs.Text.Utf8
import ScriptSandbox.Proofs.Http.Executions
import ScriptSandbox.Proofs.Http.Requests
import ScriptSandbox.Proofs.Mcp.Executions
import ScriptSandbox.Proofs.Mcp.ToolCalls
import ScriptSandbox.Proofs.Tool.Calls
import ScriptSandbox.Proofs.Tool.Registry
import ScriptSandbox.Report
import ScriptSandbox.Sandbox.Context
import ScriptSandbox.Sandbox.Evaluator
import ScriptSandbox.Sandbox.Guest
import ScriptSandbox.Sandbox.Handles
import ScriptSandbox.Sandbox.Instance
import ScriptSandbox.Sandbox.Ledger
import ScriptSandbox.Sandbox.Session
import ScriptSandbox.Sandbox.Shutdown
import ScriptSandbox.Startup
import ScriptSandbox.Symbol.Hashed
import ScriptSandbox.Symbol.Itanium.Node
import ScriptSandbox.Symbol.Itanium.Printer
import ScriptSandbox.Symbol.Itanium.Reader
import ScriptSandbox.Symbol.Itanium.Vocabulary
import ScriptSandbox.Symbol.Punycode
import ScriptSandbox.Symbol.Readable
import ScriptSandbox.Symbol.Versioned
import ScriptSandbox.Text.Alphanumeric
import ScriptSandbox.Text.Printable
import ScriptSandbox.Text.Quoted
import ScriptSandbox.Text.Similarity
import ScriptSandbox.Text.Terminal
import ScriptSandbox.Text.Utf8
import ScriptSandbox.Toml.Cursor
import ScriptSandbox.Toml.Document
import ScriptSandbox.Toml.Node
import ScriptSandbox.Toml.Quantity
import ScriptSandbox.Toml.Refusal
import ScriptSandbox.Toml.Text
import ScriptSandbox.Toml.Value
import ScriptSandbox.Tool.Basic
import ScriptSandbox.Tool.EvalScript
import ScriptSandbox.Tool.Registry
import ScriptSandbox.Wasi.Call
import ScriptSandbox.Wasi.Domain
import ScriptSandbox.Wasi.Errno
import ScriptSandbox.Wasi.Function
import ScriptSandbox.Wasi.Pointer
import ScriptSandbox.Wasi.Process
import ScriptSandbox.Wasi.Stream
import ScriptSandbox.Wasm.Atomic
import ScriptSandbox.Wasm.Binary.Code
import ScriptSandbox.Wasm.Binary.Module
import ScriptSandbox.Wasm.Binary.Names
import ScriptSandbox.Wasm.Binary.Reader
import ScriptSandbox.Wasm.Binary.Vector
import ScriptSandbox.Wasm.Fused
import ScriptSandbox.Wasm.Instantiation
import ScriptSandbox.Wasm.Instruction
import ScriptSandbox.Wasm.Lanes
import ScriptSandbox.Wasm.Machine
import ScriptSandbox.Wasm.Memory
import ScriptSandbox.Wasm.Module
import ScriptSandbox.Wasm.Number
import ScriptSandbox.Wasm.Numeric
import ScriptSandbox.Wasm.Trace
import ScriptSandbox.Wasm.Type
import ScriptSandbox.Wasm.Validation
import ScriptSandbox.Wasm.Value
import ScriptSandbox.Wasm.Vector
import ScriptSandbox.Proofs.Wasm.Pages
import ScriptSandbox.Proofs.Wasi.Actions
import ScriptSandbox.Proofs.Wasi.Aborts
import ScriptSandbox.Proofs.Wasi.Calls
import ScriptSandbox.Proofs.Wasi.Writes
import ScriptSandbox.Proofs.Sandbox.Courses
import ScriptSandbox.Proofs.Sandbox.Histories
import ScriptSandbox.Proofs.Sandbox.MemoryLimits
import ScriptSandbox.Proofs.Sandbox.CapturedOutput
import ScriptSandbox.Proofs.Sandbox.Exits
import ScriptSandbox.Proofs.Sandbox.Isolation
import ScriptSandbox.Proofs.Wasi.Transfers
import ScriptSandbox.Proofs.Sandbox.Exchanges
import ScriptSandbox.Proofs.Echo.Guest
import ScriptSandbox.Proofs.Echo.Rounds
import ScriptSandbox.Proofs.Sandbox.Promptness
import ScriptSandbox.Proofs.Echo.Evaluations
import ScriptSandbox.Proofs.Sandbox.ErrorOrigins
import ScriptSandbox.Proofs.Mcp.Agreement
import ScriptSandbox.Proofs.Http.Conversations
import ScriptSandbox.Proofs.Toml.Tables
import ScriptSandbox.Proofs.Toml.Documents
import ScriptSandbox.Proofs.Config.Assignments
import ScriptSandbox.Proofs.Config.Decoding
import ScriptSandbox.Proofs.Config.Sources
import ScriptSandbox.Proofs.Sandbox.Compiling
import ScriptSandbox.Proofs.Startup.Stages
import ScriptSandbox.Proofs.Startup.Runs
import ScriptSandbox.Proofs.Evaluation.Endings
import ScriptSandbox.Proofs.Wasm.Growth
import ScriptSandbox.Proofs.Sandbox.MemoryGrowth
import ScriptSandbox.Proofs.Sandbox.Shutdowns
import ScriptSandbox.Proofs.Sandbox.Deployments
import ScriptSandbox.Proofs.Sandbox.Draining
import ScriptSandbox.Proofs.Sandbox.OutputStreams
import ScriptSandbox.Proofs.Mcp.EvaluationCalls
import ScriptSandbox.Proofs.Config.Expansion
import ScriptSandbox.Proofs.Config.Listening
import ScriptSandbox.Proofs.Config.CommandLines
import ScriptSandbox.Proofs.Config.MemoryLimits
import ScriptSandbox.Proofs.Files.Images
import ScriptSandbox.Proofs.Http.OversizedBodies
import ScriptSandbox.Proofs.Config.HandedLimits
import ScriptSandbox.Proofs.Evaluation.ExitMessages
