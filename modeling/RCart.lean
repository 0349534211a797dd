import RCart.Text.Utf8
import RCart.Text.Hidden
import RCart.Decimal.Binary64
import RCart.Decimal.Shortest
import RCart.Decimal.Layout
import RCart.Source.Quoted
import RCart.Source.Name
import RCart.Source.Literal
import RCart.Source.Snippet
import RCart.Outline
import RCart.Log.Record
import RCart.Log.Target
import RCart.Log.File
import RCart.Fault
import RCart.Bindings
import RCart.Environment
import RCart.Console.Value
import RCart.Console.Api
import RCart.Console.Host
import RCart.Console.Language
import RCart.Interpreter.Basic
import RCart.Interpreter.Recorder
import RCart.Session
import RCart.Calendar.Date
import RCart.Calendar.Pattern
import RCart.Toml.Datetime
import RCart.Toml.Value
import RCart.Toml.Reader
import RCart.Toml.Scalar
import RCart.Toml.Document
import RCart.Settings.Basic
import RCart.Settings.Decode
import RCart.Settings.Load
import RCart.Adapter.Basic
import RCart.Adapter.Operation
import RCart.Foreign.Value
import RCart.Foreign.Host
import RCart.Foreign.Entry
import RCart.Files.Path
import RCart.Files.Tree
import RCart.Build.Bundle
import RCart.Proofs.Text.Bytes
import RCart.Proofs.Environment.Fill
import RCart.Proofs.Interpreter.Morphism
import RCart.Proofs.Interpreter.Watched
import RCart.Proofs.Session.Action
import RCart.Proofs.Session.Calls
import RCart.Proofs.Session.Contract
import RCart.Proofs.Session.Attempts
import RCart.Proofs.Adapter.Contract
import RCart.Proofs.Adapter.Lifecycle
import RCart.Proofs.Adapter.Run
import RCart.Proofs.Adapter.Rehearsal
import RCart.Proofs.Adapter.Cart
import RCart.Proofs.Adapter.Slate
import RCart.Proofs.Adapter.Isolation
import RCart.Proofs.Interpreter.Shown
import RCart.Proofs.Adapter.Failure
import RCart.Proofs.Adapter.Account
import RCart.Proofs.Adapter.Upright
import RCart.Proofs.Adapter.Alike
import RCart.Proofs.Adapter.Detached
import RCart.Proofs.Adapter.Reload
import RCart.Proofs.Adapter.BreakOff
import RCart.Proofs.Foreign.Cart
import RCart.Proofs.Decimal.Rounding
import RCart.Proofs.Decimal.Shortest
import RCart.Proofs.Decimal.Reading
import RCart.Proofs.Source.Quoted
import RCart.Proofs.Source.Literal
import RCart.Proofs.Source.Call
import RCart.Proofs.Outline.Mark
import RCart.Proofs.Outline.Parameters
import RCart.Proofs.Outline.Assigned
import RCart.Proofs.Outline.Line
import RCart.Proofs.Adapter.Stride
import RCart.Proofs.Adapter.Palette
import RCart.Proofs.Adapter.Served
import RCart.Proofs.Adapter.LazyStart
import RCart.Foreign.Program
import RCart.Proofs.Adapter.Preceded
import RCart.Proofs.Foreign.Configure
import RCart.Proofs.Foreign.Marshal
import RCart.Proofs.Source.Name
import RCart.Proofs.Source.Forwarder
import RCart.Proofs.Outline.Span
import RCart.Proofs.Outline.Symbol
import RCart.Proofs.Outline.Search
import RCart.Proofs.Outline.Safe
import RCart.Proofs.Bindings
import RCart.Proofs.Adapter.Environment
import RCart.Proofs.Adapter.Outlined
import RCart.Proofs.Foreign.Outline
import RCart.Proofs.Toml.Keys
import RCart.Proofs.Settings.Keywise
import RCart.Proofs.Interpreter.Reactions
