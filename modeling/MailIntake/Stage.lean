import MailIntake.Refusal
import MailIntake.Transaction
/-!
Stages and their checkers.  A checker sees the transaction and a world of its own, such as a spool
or a log; it may change both, and may refuse.  The checkers of a stage run in order up to the first
that refuses.
-/
namespace MailIntake

universe u

/-- A point in a connection at which checkers run. -/
inductive Stage
  /-- The client has connected. -/
  | connection
  /-- The client greets. -/
  | helo
  /-- The client names a sender. -/
  | sender
  /-- The client names a recipient, which is not part of the envelope yet. -/
  | recipient (candidate : ForwardPath)
  /-- A message has been read. -/
  | data
  /-- A message that passed is taken over. -/
  | handler
  /-- The connection has ended, however that came about. -/
  | close
deriving DecidableEq, Repr

/-- What a checker leaves behind, and its refusal if it refuses. -/
structure Verdict (W : Type u) where
  transaction : Transaction
  world : W
  refusal : Option Refusal := none

abbrev Checker (W : Type u) := Transaction → W → Verdict W

/-- A checker of recipients: it sees the candidate as well. -/
abbrev RecipientChecker (W : Type u) := ForwardPath → Checker W

/-- A checker of credentials: it sees a user name and a password as well. -/
abbrev Authenticator (W : Type u) := String → String → Checker W

/-- The checkers of each stage in order. -/
structure Pipelines (W : Type u) where
  connection : List (Checker W) := []
  helo : List (Checker W) := []
  sender : List (Checker W) := []
  recipient : List (RecipientChecker W) := []
  data : List (Checker W) := []
  handlers : List (Checker W) := []
  close : List (Checker W) := []

def Pipelines.checkers {W : Type u} (p : Pipelines W) : Stage → List (Checker W)
  | .connection => p.connection
  | .helo => p.helo
  | .sender => p.sender
  | .recipient candidate => p.recipient.map fun checker => checker candidate
  | .data => p.data
  | .handler => p.handlers
  | .close => p.close

end MailIntake
