import LocalServer.BaseUrl
import LocalServer.Seconds
import LocalServer.Text.Lines
import LocalServer.Text.Printable
import LocalServer.Text.Quoted
import LocalServer.FileTree.Change
import LocalServer.Environment
import LocalServer.Platform
import LocalServer.Finding
import LocalServer.LaunchPlan
import LocalServer.Address
import LocalServer.Discovery
import LocalServer.World.Act
import LocalServer.World.Machine
import LocalServer.HealthCheck
import LocalServer.Attempt
import LocalServer.Session
import LocalServer.CommandLine.Options
import LocalServer.CommandLine.Run
import LocalServer.Main
import LocalServer.Markup.ShortCode
import LocalServer.Markup.Style
import LocalServer.Markup.Basic
import LocalServer.Text.Similarity
import LocalServer.Text.Terminal
import LocalServer.Proofs.Dealings
import LocalServer.Proofs.Calls
import LocalServer.Proofs.Bootstrap
import LocalServer.Proofs.Waiting
import LocalServer.Proofs.Undisturbed
import LocalServer.Proofs.Shutdown
import LocalServer.Proofs.Custody
import LocalServer.Proofs.Program
import LocalServer.Proofs.Interruption
import LocalServer.Proofs.Retelling
import LocalServer.Proofs.Signals
import LocalServer.Proofs.Course
import LocalServer.Proofs.Lookups
import LocalServer.Proofs.HealthGate
import LocalServer.Proofs.Failures
import LocalServer.Proofs.Rereading
import LocalServer.Proofs.Sources
import LocalServer.Proofs.Usability
import LocalServer.Proofs.Assignments
import LocalServer.Proofs.SettingsFile
import LocalServer.Proofs.Endpoint
import LocalServer.Proofs.Language
import LocalServer.Proofs.Phases
import LocalServer.Proofs.Search
import LocalServer.Proofs.SearchResult
import LocalServer.Proofs.Deadline
import LocalServer.Proofs.Precedence
import LocalServer.Proofs.Subpath
import LocalServer.Proofs.Repetitions
import LocalServer.Proofs.PortDigits
import LocalServer.Proofs.FinalSlash
import LocalServer.Proofs.UnseenExits
import LocalServer.Proofs.NormalForm
import LocalServer.Proofs.Isolation
