import Turnstile.Binary64
import Turnstile.Text.Blank
import Turnstile.Text.Digit
import Turnstile.Text.Offset
import Turnstile.Key
import Turnstile.Tier
import Turnstile.Decision
import Turnstile.Bucket
import Turnstile.Event
import Turnstile.Limiter
import Turnstile.Limiter.Run
import Turnstile.Limiter.Schedule
import Turnstile.Json
import Turnstile.Json.Reader
import Turnstile.Base64url
import Turnstile.Claims
import Turnstile.Token
import Turnstile.Principal
import Turnstile.Principal.Resolver
import Turnstile.Address
import Turnstile.Address.Reader
import Turnstile.Message.Header
import Turnstile.Message.Target
import Turnstile.Message.Request
import Turnstile.Message.Response
import Turnstile.Caller
import Turnstile.Gateway
import Turnstile.Gateway.Startup
import Turnstile.Config
import Turnstile.Config.Validation
import Turnstile.Shutdown
import Turnstile.Toml
import Turnstile.Toml.Space
import Turnstile.Toml.Quoted
import Turnstile.Toml.Moment
import Turnstile.Toml.Number
import Turnstile.Toml.Tree
import Turnstile.Toml.Reader
import Turnstile.Toml.Document
import Turnstile.Config.Reader
import Turnstile.Text.Ranges
import Turnstile.Text.Printable
import Turnstile.Text.GraphemeExtend
import Turnstile.Text.Alphanumeric
import Turnstile.Text.Quoted
import Turnstile.Text.Similarity
import Turnstile.Event.Line
import Turnstile.LogFilter
import Turnstile.LogFilter.Reader
import Turnstile.CommandLine
import Turnstile.CommandLine.Reader
import Turnstile.Message.Connection
import Turnstile.Program.Diagnostic
import Turnstile.Program
import Turnstile.Program.Session
import Turnstile.Main
import Turnstile.Proofs.Binary64.Rounding
import Turnstile.Proofs.Binary64.Arithmetic
import Turnstile.Proofs.Bucket.Count
import Turnstile.Proofs.Bucket.Run
import Turnstile.Proofs.Bucket.Rate
import Turnstile.Proofs.Bucket.Alone
import Turnstile.Proofs.Limiter.Buckets
import Turnstile.Proofs.Limiter.Isolation
import Turnstile.Proofs.Limiter.Turns
import Turnstile.Proofs.Limiter.Linearization
import Turnstile.Proofs.Json.RoundTrip
import Turnstile.Proofs.Text.Blank
import Turnstile.Proofs.Text.Digit
import Turnstile.Proofs.Message.Header
import Turnstile.Proofs.Message.Response
import Turnstile.Proofs.Config.Limits
import Turnstile.Proofs.Gateway.Answer
import Turnstile.Proofs.Gateway.Refinement
import Turnstile.Proofs.Caller.Credential
import Turnstile.Proofs.Address.RoundTrip
import Turnstile.Proofs.Caller.Separation
import Turnstile.Proofs.Key.Identity
import Turnstile.Proofs.Caller.Address
import Turnstile.Proofs.Bucket.Eighths
import Turnstile.Proofs.Bucket.Idle
import Turnstile.Proofs.Limiter.Conservation
import Turnstile.Proofs.Base64url.RoundTrip
import Turnstile.Proofs.Principal.Claims
import Turnstile.Proofs.Program.Startup
import Turnstile.Proofs.Token.Grammar
import Turnstile.Proofs.Token.RoundTrip
import Turnstile.Proofs.Limiter.RetryAfter
import Turnstile.Proofs.Principal.Precedence
import Turnstile.Proofs.Shutdown.Steps
import Turnstile.Proofs.Shutdown.Accounting
import Turnstile.Proofs.Toml.Grammar
import Turnstile.Proofs.Toml.Space
import Turnstile.Proofs.Toml.Quoted
import Turnstile.Proofs.Toml.Moment
import Turnstile.Proofs.Toml.Number
import Turnstile.Proofs.Toml.Value
import Turnstile.Proofs.Toml.Document
import Turnstile.Proofs.Toml.Writing
import Turnstile.Proofs.Config.Overlay
import Turnstile.Proofs.Gateway.Correlation
import Turnstile.Proofs.Limiter.Renaming
import Turnstile.Proofs.Token.Failures
import Turnstile.Proofs.Gateway.Discretion
import Turnstile.Proofs.Key.Display
import Turnstile.Proofs.Address.Grammar
import Turnstile.Proofs.Bucket.Invariant
import Turnstile.Proofs.Caller.OneLine
import Turnstile.Proofs.Config.Problems
import Turnstile.Proofs.Gateway.OneLine
import Turnstile.Proofs.Program.Rebinding
