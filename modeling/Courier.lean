import Courier.Capacity
import Courier.Client
import Courier.Clock
import Courier.CommandLine.Arguments
import Courier.CommandLine.Commands
import Courier.CommandLine.Files
import Courier.Crypto.Der
import Courier.Crypto.Hmac
import Courier.Crypto.P256
import Courier.Crypto.Pem
import Courier.Crypto.Sha256
import Courier.Crypto.SigningKey
import Courier.Dialogue
import Courier.Gate.Secret
import Courier.Gate.Token
import Courier.Group.Cache
import Courier.Group.Source
import Courier.Http.Body
import Courier.Http.MediaType
import Courier.Http.Message
import Courier.Http.Outgoing
import Courier.Http.Route
import Courier.Http.Status
import Courier.Json.Basic
import Courier.Json.Parse
import Courier.Json.Print
import Courier.Json.Record
import Courier.Json.Token
import Courier.Keyspace.Address
import Courier.Keyspace.Answers
import Courier.Keyspace.Basic
import Courier.Keyspace.Command
import Courier.Keyspace.Keys
import Courier.Keyspace.Registrations
import Courier.Keyspace.Tokens
import Courier.Keyspace.Trial
import Courier.Main
import Courier.Message.Event
import Courier.Message.Notification
import Courier.Message.Report
import Courier.Message.Selector
import Courier.Platform
import Courier.Proofs.Commutes
import Courier.Proofs.Dialogue
import Courier.Proofs.Gate.Alike
import Courier.Proofs.Gate.NewToken
import Courier.Proofs.Gate.Verdict
import Courier.Proofs.Group.Coherence
import Courier.Proofs.Group.LookUp
import Courier.Proofs.Group.Scene
import Courier.Proofs.Http.Authority
import Courier.Proofs.Http.EmptySecret
import Courier.Proofs.Http.Failure
import Courier.Proofs.Http.Questions
import Courier.Proofs.Http.Submission
import Courier.Proofs.Json.Fields
import Courier.Proofs.Json.Parse
import Courier.Proofs.Json.Record
import Courier.Proofs.Json.Scan
import Courier.Proofs.Keyspace.Agreement
import Courier.Proofs.Keyspace.Footprint
import Courier.Proofs.Keyspace.Registered
import Courier.Proofs.Keyspace.Scripts
import Courier.Proofs.Keyspace.Shape
import Courier.Proofs.Keyspace.Tombstone
import Courier.Proofs.Message.Conversation
import Courier.Proofs.Message.Event
import Courier.Proofs.Message.Outcome
import Courier.Proofs.Message.Preview
import Courier.Proofs.Message.Recipients
import Courier.Proofs.Message.Report
import Courier.Proofs.Message.Selector
import Courier.Proofs.Push.Apart
import Courier.Proofs.Push.Beside
import Courier.Proofs.Push.Calls
import Courier.Proofs.Push.Cause
import Courier.Proofs.Push.Circumstances
import Courier.Proofs.Push.FanOut
import Courier.Proofs.Push.Offline
import Courier.Proofs.Push.Online
import Courier.Proofs.Push.Outcome
import Courier.Proofs.Push.Process
import Courier.Proofs.Push.Sender
import Courier.Proofs.Push.Shift
import Courier.Proofs.Push.Shutdown
import Courier.Proofs.Push.Toil
import Courier.Proofs.Push.Truth
import Courier.Proofs.Push.TwoWays
import Courier.Proofs.Registration.Book
import Courier.Proofs.Registration.Filed
import Courier.Proofs.Registration.Ordered
import Courier.Proofs.Registration.Shelf
import Courier.Proofs.Service.Course
import Courier.Proofs.Service.Host
import Courier.Proofs.Service.Talk
import Courier.Proofs.Session.Calls
import Courier.Proofs.Session.Chronicle
import Courier.Proofs.Session.InTurn
import Courier.Proofs.Session.Owned
import Courier.Proofs.Settings.File
import Courier.Proofs.Settings.Layers
import Courier.Proofs.Settings.Load
import Courier.Proofs.Settings.Logging
import Courier.Proofs.Stream.Closed
import Courier.Proofs.Stream.Conserved
import Courier.Proofs.Stream.Kept
import Courier.Proofs.Stream.Labels
import Courier.Proofs.Stream.Ledger
import Courier.Proofs.Stream.Refused
import Courier.Proofs.Table
import Courier.Proofs.Text.Decimal
import Courier.Proofs.Text.Pieces
import Courier.Proofs.Text.Utf8
import Courier.Proofs.Token.Accepted
import Courier.Proofs.Token.Books
import Courier.Proofs.Token.History
import Courier.Proofs.Token.Kicked
import Courier.Proofs.Token.OneUsable
import Courier.Proofs.Token.Purge
import Courier.Proofs.Token.Signed
import Courier.Proofs.Token.Store
import Courier.Proofs.Toml.Shape
import Courier.Proofs.TwoSteps
import Courier.Provider.Apns
import Courier.Provider.Fcm
import Courier.Provider.Setup
import Courier.Push.Channels
import Courier.Push.Consumer
import Courier.Push.Delivery
import Courier.Push.Dispatch
import Courier.Push.Rpc
import Courier.Push.Window
import Courier.Registration.Store
import Courier.Service.Question
import Courier.Service.Server
import Courier.ServiceError
import Courier.Session.Registry
import Courier.Settings.Basic
import Courier.Settings.EnvFile
import Courier.Settings.File
import Courier.Settings.Layers
import Courier.Simulation.Answers
import Courier.Simulation.Assembly
import Courier.Simulation.Job
import Courier.Simulation.Machine
import Courier.Simulation.Operations
import Courier.Simulation.World
import Courier.Stream.Queue
import Courier.Table
import Courier.Text.Base64
import Courier.Text.Blank
import Courier.Text.Cut
import Courier.Text.Decimal
import Courier.Text.FilePath
import Courier.Text.Hex
import Courier.Text.Quoted
import Courier.Text.Utf8
import Courier.Token.Claims
import Courier.Token.Issue
import Courier.Token.Key
import Courier.Token.Signed
import Courier.Token.State
import Courier.Token.Store
import Courier.Toml.Basic
import Courier.Toml.Parse
import Courier.Toml.Scalar
import Courier.Toml.Section
import Courier.Url.Host
import Courier.Url.Parse
import Courier.Url.Percent
