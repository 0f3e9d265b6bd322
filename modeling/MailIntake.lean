import MailIntake.Text.Ascii
import MailIntake.Text.Utf8
import MailIntake.Text.Blank
import MailIntake.Address.Ip
import MailIntake.Command
import MailIntake.Path
import MailIntake.Reply
import MailIntake.Sasl
import MailIntake.Proxy
import MailIntake.XClient
import MailIntake.Dots
import MailIntake.Refusal
import MailIntake.Settings
import MailIntake.Message.Mime
import MailIntake.Transaction
import MailIntake.Resolver
import MailIntake.Daemon.Options
import MailIntake.Karma
import MailIntake.Stage
import MailIntake.LineReader
import MailIntake.Service
import MailIntake.Session.Run
import MailIntake.Server
import MailIntake.Trial.Run
import MailIntake.Trial.Daemon
import MailIntake.Daemon.Startup
import MailIntake.Main
import MailIntake.Proofs.Dots.BodyEnd
import MailIntake.Proofs.Dots.Stuffing
import MailIntake.Proofs.Dots.Terminator
import MailIntake.Proofs.Session.Admission
import MailIntake.Proofs.Session.Envelope
import MailIntake.Proofs.Session.Body
import MailIntake.Proofs.Session.Reads
import MailIntake.Proofs.Session.TurnedDown
import MailIntake.Proofs.Session.Aliases
import MailIntake.Proofs.Session.Isolation
import MailIntake.Proofs.Session.Credentials
import MailIntake.Proofs.Session.Freshness
import MailIntake.Proofs.Session.Course
import MailIntake.Proofs.Session.Replies
import MailIntake.Proofs.Server.Spooling
import MailIntake.Proofs.Session.Whereabouts
import MailIntake.Proofs.Server.Balance
import MailIntake.Interplay
import MailIntake.Proofs.Server.Shutdown
import MailIntake.Proofs.Reply.Framing
import MailIntake.Proofs.Path.Language
import MailIntake.Proofs.Session.SignIn
import MailIntake.Proofs.Session.Rewards
import MailIntake.Proofs.Text.Lossy
import MailIntake.Proofs.Path.Spelling
import MailIntake.Proofs.Session.Recorded
import MailIntake.Proofs.Session.Accounts
import MailIntake.Proofs.Server.Counters
import MailIntake.Proofs.Server.Independence
import MailIntake.Proofs.Path.Printing
import MailIntake.Proofs.Session.Traced
import MailIntake.Proofs.Session.Attributes
import MailIntake.Proofs.Session.PathLine
import MailIntake.Proofs.Session.SpacedLine
import MailIntake.Proofs.Session.DeclaredSize
import MailIntake.Proofs.Session.CutShort
import MailIntake.Proofs.XClient
import MailIntake.Proofs.Address.Printing
import MailIntake.Proofs.Proxy
import MailIntake.Proofs.LineReader
import MailIntake.Proofs.Metadata
import MailIntake.Proofs.Text.Xtext
import MailIntake.Proofs.Settings
