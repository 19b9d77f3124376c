import LogForwarder.Check.Spec
import LogForwarder.Cli.Transcript
import LogForwarder.Compile.Spec
import LogForwarder.Document.Text
import LogForwarder.Element.Arena
import LogForwarder.Json.Reader
import LogForwarder.Main
import LogForwarder.Proofs.Address
import LogForwarder.Proofs.Agreement
import LogForwarder.Proofs.Arena
import LogForwarder.Proofs.AsWritten
import LogForwarder.Proofs.Case
import LogForwarder.Proofs.Codec
import LogForwarder.Proofs.Credentials
import LogForwarder.Proofs.Debugging
import LogForwarder.Proofs.FilePath
import LogForwarder.Proofs.Fluentd.ChunkKey
import LogForwarder.Proofs.Fluentd.Compile
import LogForwarder.Proofs.Fluentd.Content
import LogForwarder.Proofs.Fluentd.Login
import LogForwarder.Proofs.Fluentd.Nesting
import LogForwarder.Proofs.Fluentd.Order
import LogForwarder.Proofs.Fluentd.Outline
import LogForwarder.Proofs.Fluentd.Placing
import LogForwarder.Proofs.Fluentd.Port
import LogForwarder.Proofs.Fluentd.Profile
import LogForwarder.Proofs.Fluentd.Secrecy
import LogForwarder.Proofs.Fluentd.StorePlacing
import LogForwarder.Proofs.Fluentd.Stores
import LogForwarder.Proofs.Fluentd.Trust
import LogForwarder.Proofs.Generation
import LogForwarder.Proofs.Idempotence
import LogForwarder.Proofs.Isolation
import LogForwarder.Proofs.Json.Compact
import LogForwarder.Proofs.Json.Literal
import LogForwarder.Proofs.LabelKeys
import LogForwarder.Proofs.Lines
import LogForwarder.Proofs.Loading
import LogForwarder.Proofs.LogFile
import LogForwarder.Proofs.Login
import LogForwarder.Proofs.OneLine
import LogForwarder.Proofs.Origin
import LogForwarder.Proofs.PipelineName
import LogForwarder.Proofs.Quantity
import LogForwarder.Proofs.Scheme
import LogForwarder.Proofs.SecretStore
import LogForwarder.Proofs.Serialization
import LogForwarder.Proofs.Template.Calls
import LogForwarder.Proofs.Template.Engine
import LogForwarder.Proofs.Template.Inclusion
import LogForwarder.Proofs.Template.Lexing
import LogForwarder.Proofs.Template.Nesting
import LogForwarder.Proofs.Template.Reading
import LogForwarder.Proofs.Template.Source
import LogForwarder.Proofs.Template.Written
import LogForwarder.Proofs.Toml.InlineTable
import LogForwarder.Proofs.Toml.Line
import LogForwarder.Proofs.Toml.Literal
import LogForwarder.Proofs.Toml.Table
import LogForwarder.Proofs.Trust
import LogForwarder.Proofs.Unreferenced
import LogForwarder.Proofs.Url
import LogForwarder.Proofs.Vector.Block
import LogForwarder.Proofs.Vector.Branching
import LogForwarder.Proofs.Vector.Chain
import LogForwarder.Proofs.Vector.Cloudwatch
import LogForwarder.Proofs.Vector.Compile
import LogForwarder.Proofs.Vector.Condition
import LogForwarder.Proofs.Vector.Embedding
import LogForwarder.Proofs.Vector.FieldTemplate
import LogForwarder.Proofs.Vector.LabelPath
import LogForwarder.Proofs.Vector.Login
import LogForwarder.Proofs.Vector.Order
import LogForwarder.Proofs.Vector.Quotation
import LogForwarder.Proofs.Vector.Rendering
import LogForwarder.Proofs.Vector.Request
import LogForwarder.Proofs.Vector.Selection
import LogForwarder.Proofs.Vector.Tls
import LogForwarder.Proofs.Vector.Transform
import LogForwarder.Route.Explanation
import LogForwarder.Template.Engine
import LogForwarder.Template.Reader
import LogForwarder.Text.Case
import LogForwarder.Toml.Reader
