/-!
What commands earn and cost.  Karma is a running judgement of a client; the session keeps the ledger
and checkers may act on it.
-/
namespace MailIntake.Karma

/-- Earned by a greeting, a sender, the first recipient of a message and a message. -/
def commandExecuted : Int := 1

/-- The cost of an argument that is missing or malformed. -/
def badParameter : Int := 1

/-- The cost of a command that comes too early or too late. -/
def orderViolation : Int := 1

/-- The cost of an unknown command. -/
def unknownCommand : Int := 2

/-- The cost of one recipient too many. -/
def tooManyRecipients : Int := 5

/-- The cost of a message over the size limit. -/
def messageTooBig : Int := 5

/-- The cost of a failed handshake. -/
def handshakeFailed : Int := 2

/-- The cost of asking for encryption where it cannot be had. -/
def encryptionImpossible : Int := 1

/-- The cost of credentials that do not hold. -/
def authenticationFailed : Int := 1

/-- The cost of a recipient that a checker refuses. -/
def recipientRejected : Int := 1

end MailIntake.Karma
