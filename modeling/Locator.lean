import Locator.Bindings
import Locator.Command.Arguments
import Locator.Command.Basic
import Locator.Command.Run
import Locator.Document.Basic
import Locator.Document.Json
import Locator.Document.Message
import Locator.Document.Scalar
import Locator.Document.Value
import Locator.Document.Yaml
import Locator.Json.Basic
import Locator.Json.Draft
import Locator.Json.Token
import Locator.Main
import Locator.Number.Decimal
import Locator.Number.Double
import Locator.Proofs.Text.Fields
import Locator.Template.Basic
import Locator.Template.Escaping
import Locator.Template.Expansion
import Locator.Template.Operator
import Locator.Template.Syntax
import Locator.Template.Value
import Locator.Text.Ascii
import Locator.Text.Combining
import Locator.Text.Composition
import Locator.Text.Composition.Pairs
import Locator.Text.Fields
import Locator.Text.Form
import Locator.Text.Invisible
import Locator.Text.Percent
import Locator.Text.Quoted
import Locator.Text.Utf8
import Locator.Url.Basic
import Locator.Url.Component
import Locator.Url.Error
import Locator.Url.Host
import Locator.Url.Host.Ipv4
import Locator.Url.Host.Ipv6
import Locator.Url.Host.Label
import Locator.Url.Host.Label.Allowed
import Locator.Url.Host.Label.Direction
import Locator.Url.Host.Label.Joining
import Locator.Url.Host.Label.Meaning
import Locator.Url.Host.Label.Meaning.Letters
import Locator.Url.Host.Label.Meaning.Texts
import Locator.Url.Host.Punycode
import Locator.Url.Parts
import Locator.Url.Path
import Locator.Url.Reading
import Locator.Url.Scheme
import Locator.Url.Update
import Locator.Yaml.Gap
import Locator.Yaml.Layout
import Locator.Yaml.Node
import Locator.Yaml.Node.Reading
import Locator.Yaml.Place
import Locator.Yaml.Property
import Locator.Yaml.Scalar.Block
import Locator.Yaml.Scalar.Plain
import Locator.Yaml.Scalar.Quoted
import Locator.Yaml.Stream
import Locator.Yaml.Token
import Locator.Proofs.Template.Cutting
import Locator.Proofs.Template.Writing
import Locator.Proofs.Text.Percent
import Locator.Proofs.Text.Form
import Locator.Proofs.Template.Escaping
import Locator.Proofs.Template.Query
import Locator.Proofs.Url.Component
import Locator.Proofs.Url.Path
import Locator.Proofs.Url.Reading
import Locator.Proofs.Url.Expanded
import Locator.Proofs.Template.Rescan
import Locator.Proofs.Url.QueryValue
import Locator.Proofs.Text.Digits
import Locator.Proofs.Url.Host.Ipv6
import Locator.Proofs.Url.Host.Ipv4
import Locator.Proofs.Url.Host.Domain
import Locator.Proofs.Url.Host.Reading
import Locator.Proofs.Url.Authority
import Locator.Proofs.Url.Path.Resolving
import Locator.Proofs.Url.Settled
import Locator.Proofs.Url.Change
import Locator.Proofs.Url.Parts
import Locator.Proofs.Url.Persistence
import Locator.Proofs.Bindings
import Locator.Proofs.Command.Collecting
import Locator.Proofs.Json.Layout
import Locator.Proofs.Json.Writing
import Locator.Proofs.Bindings.Json
import Locator.Proofs.Yaml.Place
import Locator.Proofs.Yaml.Scalar
import Locator.Proofs.Yaml.Flow
import Locator.Proofs.Yaml.Json
import Locator.Proofs.Yaml.Node
import Locator.Proofs.Document.Sound
import Locator.Proofs.Document.Yaml
import Locator.Proofs.Bindings.Yaml
import Locator.Proofs.Document.Json
import Locator.Proofs.Document.Unwritten
import Locator.Proofs.Url.Path.File
import Locator.Proofs.Url.Reachable
import Locator.Proofs.Url.Segment
import Locator.Proofs.Url.Label
import Locator.Proofs.Url.Address
import Locator.Proofs.Text.Form.Grouping
import Locator.Proofs.Url.QueryPairs
import Locator.Proofs.Template.Emptiness
import Locator.Proofs.Template.Expansion
import Locator.Proofs.Template.Explosion
import Locator.Proofs.Template.Separation
import Locator.Proofs.Text.Percent.Whole
import Locator.Proofs.Template.Prefix
import Locator.Proofs.Document.Value
import Locator.Proofs.Template.Closure
import Locator.Proofs.Template.Dependence
import Locator.Proofs.Template.Concatenation
import Locator.Proofs.Template.Alphabet
import Locator.Proofs.Json.Indentation
import Locator.Proofs.Url.Controls
import Locator.Proofs.Url.Parts.Json
import Locator.Proofs.Command.Description
