import Signet.Address
import Signet.Algorithm
import Signet.Authority
import Signet.Claims
import Signet.Clock
import Signet.Credential
import Signet.Decimal.Digits
import Signet.Decimal.Nearest
import Signet.Decimal.Parse
import Signet.Decimal.Scientific
import Signet.Decimal.Shortest
import Signet.Deployment
import Signet.Dict
import Signet.Error
import Signet.Gateway
import Signet.Gateway.Request
import Signet.Gateway.Service
import Signet.Hash.Mac
import Signet.Hash.Sha2
import Signet.Http
import Signet.Http.Frame
import Signet.Json.Fault
import Signet.Json.Lenient
import Signet.Json.Printer
import Signet.Json.Skip
import Signet.Json.Token
import Signet.Json.Typed
import Signet.Json.Value
import Signet.Log.Directive
import Signet.Log.Event
import Signet.Log.FieldValue
import Signet.Log.Filter
import Signet.Log.Pattern
import Signet.Log.Threshold
import Signet.Main
import Signet.Message
import Signet.Operation
import Signet.Pack.Printer
import Signet.Pack.Typed
import Signet.Permission
import Signet.Permission.Table
import Signet.Proofs.Authority.Atomicity
import Signet.Proofs.Authority.Bounds
import Signet.Proofs.Authority.Claiming
import Signet.Proofs.Authority.Creation
import Signet.Proofs.Authority.Endurance
import Signet.Proofs.Authority.Expiry
import Signet.Proofs.Authority.Finality
import Signet.Proofs.Authority.Interference
import Signet.Proofs.Authority.Isolation
import Signet.Proofs.Authority.Issuing
import Signet.Proofs.Authority.Patience
import Signet.Proofs.Authority.Removal
import Signet.Proofs.Authority.Rereading
import Signet.Proofs.Authority.Secrecy
import Signet.Proofs.Authority.Strength
import Signet.Proofs.Authority.Tampering
import Signet.Proofs.Authority.Validity
import Signet.Proofs.Authority.Withdrawal
import Signet.Proofs.Authority.Wording
import Signet.Proofs.Base64Url
import Signet.Proofs.Deployment.Course
import Signet.Proofs.Deployment.Execution
import Signet.Proofs.Deployment.Secrecy
import Signet.Proofs.Deployment.Waiting
import Signet.Proofs.Deployment.Wording
import Signet.Proofs.Gateway.Bearer
import Signet.Proofs.Gateway.Discretion
import Signet.Proofs.Gateway.Path
import Signet.Proofs.Gateway.Privilege
import Signet.Proofs.Gateway.Requirement
import Signet.Proofs.Gateway.Session
import Signet.Proofs.Gateway.SignIn
import Signet.Proofs.Gateway.Wire
import Signet.Proofs.Json.List
import Signet.Proofs.Json.Number
import Signet.Proofs.Json.Scalar
import Signet.Proofs.Json.Skip
import Signet.Proofs.Message
import Signet.Proofs.Operation.Execution
import Signet.Proofs.Operation.Failure
import Signet.Proofs.Operation.Secrecy
import Signet.Proofs.Pack.Loss
import Signet.Proofs.Pack.Scalar
import Signet.Proofs.Pack.Structure
import Signet.Proofs.Permission
import Signet.Proofs.Permission.Naming
import Signet.Proofs.Permission.Word
import Signet.Proofs.Remote.Session
import Signet.Proofs.Remote.Store
import Signet.Proofs.Settings
import Signet.Proofs.Settings.Override
import Signet.Proofs.Store.Messages
import Signet.Proofs.Store.Portability
import Signet.Proofs.Store.Recall
import Signet.Proofs.Store.Sequence
import Signet.Proofs.Store.Service
import Signet.Proofs.Store.Upkeep
import Signet.Proofs.Token.Acceptance
import Signet.Proofs.Token.RoundTrip
import Signet.Proofs.Token.Tag
import Signet.Reader
import Signet.Remote.Client
import Signet.Remote.Store
import Signet.Remote.Verifier
import Signet.Secret
import Signet.Settings
import Signet.Settings.Source
import Signet.Startup
import Signet.Store
import Signet.Store.Access
import Signet.Store.Request
import Signet.Store.Service
import Signet.Text.Alphabetic
import Signet.Text.Alphanumeric
import Signet.Text.Base64Url
import Signet.Text.Blank
import Signet.Text.Quoted
import Signet.Text.Runs
import Signet.Text.Unprintable
import Signet.Text.Utf8
import Signet.Token
import Signet.Token.Fault
import Signet.Token.Header
import Signet.Token.Key
