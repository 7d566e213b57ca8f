import MailScript.CommandLine.Run
import MailScript.CommandLine.Specification
import MailScript.Conversation.Lifecycle
import MailScript.Datum
import MailScript.Element
import MailScript.Failure
import MailScript.Files.Search
import MailScript.Files.Tree
import MailScript.Main
import MailScript.Matching
import MailScript.Memory
import MailScript.Network.Factory
import MailScript.Number.Binary64
import MailScript.Pattern
import MailScript.Proofs.CommandLine.ExitCode
import MailScript.Proofs.Conversation.Aftermath
import MailScript.Proofs.Conversation.Faults
import MailScript.Proofs.Conversation.Growth
import MailScript.Proofs.Conversation.Order
import MailScript.Proofs.Conversation.Phases
import MailScript.Proofs.Conversation.Refinement
import MailScript.Proofs.Conversation.Repetition
import MailScript.Proofs.Conversation.Routing
import MailScript.Proofs.Conversation.Sending
import MailScript.Proofs.Conversation.Tolerance
import MailScript.Proofs.Conversation.Transparency
import MailScript.Proofs.HostAddress
import MailScript.Proofs.Matching.Accounting
import MailScript.Proofs.Matching.Capturing
import MailScript.Proofs.Matching.Unordered
import MailScript.Proofs.Network.Calls
import MailScript.Proofs.Network.Disconnection
import MailScript.Proofs.Network.RoundTrip
import MailScript.Proofs.Script.CaptureLines
import MailScript.Proofs.Script.Compilation
import MailScript.Proofs.Script.Composition
import MailScript.Proofs.Script.PatternPlaces
import MailScript.Proofs.Script.Slips
import MailScript.Proofs.Script.Sources
import MailScript.Proofs.Script.Statement
import MailScript.Proofs.Script.Upload
import MailScript.Proofs.Task
import MailScript.Proofs.Task.FailFast
import MailScript.Proofs.Task.KeepGoing
import MailScript.Proofs.Template
import MailScript.Proofs.Template.Inert
import MailScript.Proofs.Template.OnePass
import MailScript.Proofs.Variables.Families
import MailScript.Script.Compilation
import MailScript.Seed
import MailScript.Settings
import MailScript.Settings.Environment
import MailScript.SystemError
import MailScript.Template
import MailScript.Text.Blank
import MailScript.Text.Case
import MailScript.Text.Encoding
import MailScript.Text.Letter
import MailScript.Text.Lines
import MailScript.Text.Printable
import MailScript.Text.Quoted
import MailScript.Timestamp
