import ProxySelection.CommandLine.Options
import ProxySelection.CommandLine.Run
import ProxySelection.Exchange.Basic
import ProxySelection.Exchange.Headers
import ProxySelection.Exchange.Router
import ProxySelection.Exchange.Stage
import ProxySelection.Health
import ProxySelection.HostName.Basic
import ProxySelection.HostName.Composition
import ProxySelection.HostName.Direction
import ProxySelection.HostName.Joiner
import ProxySelection.HostName.Letters
import ProxySelection.HostName.Marks
import ProxySelection.HostName.Punycode
import ProxySelection.Json.Basic
import ProxySelection.Json.Literal
import ProxySelection.Json.Reader
import ProxySelection.Json.Token
import ProxySelection.Json.Writer
import ProxySelection.Launch
import ProxySelection.Main
import ProxySelection.Notice
import ProxySelection.Number.Binary64
import ProxySelection.Number.Digit
import ProxySelection.Number.Integer
import ProxySelection.Pattern.Basic
import ProxySelection.Pattern.Cache
import ProxySelection.Pattern.Glob
import ProxySelection.Pattern.Host
import ProxySelection.Pattern.Match
import ProxySelection.Proofs.Number.Decimal
import ProxySelection.Proofs.Pattern.Cache
import ProxySelection.Proofs.Pattern.Grammar
import ProxySelection.Proofs.Text.Cut
import ProxySelection.Proofs.Url.Parsed
import ProxySelection.Route.Basic
import ProxySelection.Service.Answer
import ProxySelection.Service.Basic
import ProxySelection.Service.Body
import ProxySelection.Service.Target
import ProxySelection.Session
import ProxySelection.Settings.Basic
import ProxySelection.Settings.EnvFile
import ProxySelection.Table.Basic
import ProxySelection.Table.File
import ProxySelection.Text.Base64
import ProxySelection.Text.Basic
import ProxySelection.Text.Blank
import ProxySelection.Text.Encoding
import ProxySelection.Text.Lines
import ProxySelection.Text.Printable
import ProxySelection.Text.Quoted
import ProxySelection.Text.Runs
import ProxySelection.Text.UpperCase
import ProxySelection.Text.Utf8
import ProxySelection.Url.Address
import ProxySelection.Url.Authority
import ProxySelection.Url.Basic
import ProxySelection.Url.Member
import ProxySelection.Url.Proxy
import ProxySelection.Validation.Issue
import ProxySelection.Validation.Scalar
import ProxySelection.Proofs.Pattern.Parts
import ProxySelection.Proofs.Session.Yields
import ProxySelection.Proofs.Pattern.Matching
import ProxySelection.Proofs.Table.Settled
import ProxySelection.Proofs.Table.Answers
import ProxySelection.Proofs.Session.Operation
import ProxySelection.Proofs.Exchange.Connection
import ProxySelection.Proofs.Exchange.Routing
import ProxySelection.Proofs.Route.Server
import ProxySelection.Proofs.Exchange.Request
import ProxySelection.Proofs.Exchange.Credentials
import ProxySelection.Proofs.Exchange.Tunnel
import ProxySelection.Proofs.Session.Lockstep
import ProxySelection.Proofs.Table.Twins
import ProxySelection.Proofs.Exchange.Shown
import ProxySelection.Proofs.Service.Passwords
import ProxySelection.Proofs.Url.Authority
import ProxySelection.Proofs.Url.Shape
import ProxySelection.Proofs.Url.RoundTrip
import ProxySelection.Proofs.Table.Listing
import ProxySelection.Proofs.Url.Legible
import ProxySelection.Proofs.Service.Usable
import ProxySelection.Proofs.Exchange.Return
import ProxySelection.Proofs.Json.Limits
import ProxySelection.Proofs.Table.Loading
import ProxySelection.Proofs.CommandLine.Loading
import ProxySelection.Proofs.Table.InPlace
import ProxySelection.Proofs.Pattern.Retention
import ProxySelection.Proofs.Table.Announced
import ProxySelection.Proofs.CommandLine.Checking
import ProxySelection.Proofs.Service.Published
import ProxySelection.Proofs.Url.WellFormed
import ProxySelection.Proofs.Url.Pieces
import ProxySelection.Proofs.Launch.Mode
import ProxySelection.Proofs.Route.Received
import ProxySelection.Proofs.Pattern.Reading
import ProxySelection.Proofs.Pattern.Widening
import ProxySelection.Proofs.Pattern.Literal
import ProxySelection.Proofs.Pattern.Seen
import ProxySelection.Proofs.Url.PortText
import ProxySelection.Proofs.Route.Alike
import ProxySelection.Proofs.Route.Updates
import ProxySelection.Proofs.Text.Base64
import ProxySelection.Proofs.Url.Credentials
import ProxySelection.Proofs.Url.Endpoint
import ProxySelection.Proofs.Exchange.Halfway
import ProxySelection.Proofs.Session.Inversion
import ProxySelection.Proofs.CommandLine.Given
import ProxySelection.Proofs.CommandLine.Ports
import ProxySelection.Proofs.Pattern.Labels
