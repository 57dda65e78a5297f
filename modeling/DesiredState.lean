import DesiredState.Main
import DesiredState.Proofs.Answer.Failures
import DesiredState.Proofs.Answer.Identity
import DesiredState.Proofs.Answer.Names
import DesiredState.Proofs.Answer.Places
import DesiredState.Proofs.Answer.Reports
import DesiredState.Proofs.Answer.Running
import DesiredState.Proofs.Answer.Session
import DesiredState.Proofs.CommandLine.Preview
import DesiredState.Proofs.Document.Conversion
import DesiredState.Proofs.Document.Disclosure
import DesiredState.Proofs.Document.Integers
import DesiredState.Proofs.Document.Keys
import DesiredState.Proofs.Document.Secrets
import DesiredState.Proofs.Document.Verbatim
import DesiredState.Proofs.Json.Members
import DesiredState.Proofs.Json.Spelling
import DesiredState.Proofs.Json.Syntax
import DesiredState.Proofs.Literal.Identity
import DesiredState.Proofs.Literal.Quotes
import DesiredState.Proofs.Literal.RoundTrip
import DesiredState.Proofs.Mapping
import DesiredState.Proofs.Number.Decimal
import DesiredState.Proofs.Number.ReadBack
import DesiredState.Proofs.Number.Rounding
import DesiredState.Proofs.Redaction.Exactness
import DesiredState.Proofs.Redaction.Hiding
import DesiredState.Proofs.Redaction.Leaking
import DesiredState.Proofs.Redaction.Literals
import DesiredState.Proofs.Redaction.Lockstep
import DesiredState.Proofs.Redaction.Masking
import DesiredState.Proofs.Redaction.Misled
import DesiredState.Proofs.Redaction.Pieces
import DesiredState.Proofs.Redaction.Renaming
import DesiredState.Proofs.Redaction.Secrecy
import DesiredState.Proofs.Script.Acceptance
import DesiredState.Proofs.Script.Block
import DesiredState.Proofs.Script.Containment
import DesiredState.Proofs.Script.Expanding
import DesiredState.Proofs.Script.Inlining
import DesiredState.Proofs.Script.Liveness
import DesiredState.Proofs.Script.Naming
import DesiredState.Proofs.Script.Order
import DesiredState.Proofs.Script.Payloads
import DesiredState.Proofs.Script.Positions
import DesiredState.Proofs.Script.Registering
import DesiredState.Proofs.Script.Restating
import DesiredState.Proofs.Script.Sharing
import DesiredState.Proofs.Text.Lowercase
import DesiredState.Proofs.Text.Runs
import DesiredState.Proofs.Yaml.Numerals
import DesiredState.Proofs.Yaml.PlainLine
import DesiredState.Proofs.Yaml.SecretLine
