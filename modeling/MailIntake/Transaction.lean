import MailIntake.Address.Ip
import MailIntake.Message.Header
import MailIntake.Metadata
import MailIntake.Moment
import MailIntake.Path
/-!
The state of one client connection as checkers see it: who the client is, how the connection is
secured, and the envelope and body of the message at hand.  The shared part of a transaction, its
identifier, metadata and end, outlives it.
-/
namespace MailIntake

open Text Address

/-- The protocol that the client speaks. -/
inductive Protocol
  | smtp
  | esmtp
deriving DecidableEq, Repr

def Protocol.render : Protocol → String
  | .smtp => "SMTP"
  | .esmtp => "ESMTP"

structure TransactionId where
  bits : BitVec 128
deriving DecidableEq, Repr

/-- An identifier in 32 hexadecimal digits. -/
def TransactionId.render (id : TransactionId) : String :=
  let digits := Nat.toDigits 16 id.bits.toNat
  String.ofList (List.replicate (32 - digits.length) '0' ++ digits)

/-- How an encrypted connection was set up. -/
structure TlsInfo where
  protocolVersion : String
  cipher : String
deriving DecidableEq, Repr

/-- The part of a transaction that outlives it. -/
structure Shared where
  id : TransactionId
  metadata : Metadata := {}
  cancelled : Bool := false

/-- The message at hand: its sender once there is one, its recipients, the delivery addresses that
checkers found, its body and the header fields read from it. -/
structure Envelope where
  sender : Option ReversePath := none
  recipients : List ForwardPath := []
  aliases : List String := []
  body : List UInt8 := []
  headers : List Header := []
deriving DecidableEq, Repr

/-- The protocol state of a connection. -/
structure Peer where
  /-- The name that the server greets with. -/
  serverHostname : String
  localAddr : Endpoint
  /-- The client's address; a proxy or a trusted client may replace it. -/
  remoteAddr : Endpoint
  /-- Names of the client's address. -/
  ptrs : List String := []
  encrypted : Bool := false
  /-- The client showed a certificate that was accepted. -/
  secured : Bool := false
  tls : Option TlsInfo := none
  /-- The name that the client greets with. -/
  helo : Option String := none
  protocol : Protocol := .smtp
  username : Option String := none
  password : Option String := none
deriving DecidableEq, Repr

structure Transaction where
  shared : Shared
  peer : Peer
  envelope : Envelope := {}

namespace Transaction

/-- The transaction of a new connection. -/
def start (id : TransactionId) (serverHostname : String) (localAddr remoteAddr : Endpoint) :
    Transaction :=
  { shared := { id }, peer := { serverHostname, localAddr, remoteAddr } }

def metadata (tx : Transaction) : Metadata :=
  tx.shared.metadata

def withMetadata (tx : Transaction) (m : Metadata) : Transaction :=
  { tx with shared := { tx.shared with metadata := m } }

def reward (tx : Transaction) (amount : Int) : Transaction :=
  tx.withMetadata (tx.metadata.reward amount)

def penalize (tx : Transaction) (amount : Int) : Transaction :=
  tx.withMetadata (tx.metadata.penalize amount)

def karma (tx : Transaction) : Int :=
  tx.metadata.karma

/-- Whether the client has a user name. -/
def isAuthenticated (tx : Transaction) : Bool :=
  tx.peer.username.isSome

/-- Forgets the message at hand and keeps the greeting. -/
def resetEnvelope (tx : Transaction) : Transaction :=
  { tx with envelope := {} }

/-- Sets the body and reads its header fields. -/
def setBody (tx : Transaction) (body : List UInt8) : Transaction :=
  { tx with envelope := { tx.envelope with body := body, headers := Header.ofMessage body } }

/-- The first header field with a key in any case. -/
def header? (tx : Transaction) (key : String) : Option String :=
  Header.find? tx.envelope.headers key

/-- How a message came in: the protocol, `S` if encrypted, `A` if authenticated. -/
def withText (tx : Transaction) : String :=
  tx.peer.protocol.render ++ (if tx.peer.encrypted then "S" else "")
    ++ if tx.isAuthenticated then "A" else ""

/-- The first name of the client's address without the dots at its end. -/
def ptrText (tx : Transaction) : String :=
  match tx.peer.ptrs with
  | [] => "unknown"
  | name :: _ => String.ofList (dropTailWhile (· == '.') name.toList)

/-- The trace field that describes this transaction, with the line end behind it. -/
def receivedLine (tx : Transaction) (now : Moment) : String :=
  "Received: from " ++ tx.peer.helo.getD "unknown" ++ " (" ++ tx.ptrText ++ " ["
    ++ tx.peer.remoteAddr.ip.render ++ "])\r\n\tby " ++ tx.peer.serverHostname ++ " with "
    ++ tx.withText ++ " id " ++ tx.shared.id.render
    ++ (match tx.envelope.recipients with
      | [rcpt] => "\r\n\tfor <" ++ rcpt.render ++ ">"
      | _ => "")
    ++ ";\r\n\t" ++ now.render ++ "\r\n"

/-- Puts the trace field in front of the body. -/
def addReceivedLine (tx : Transaction) (now : Moment) : Transaction :=
  tx.setBody (Utf8.encode (tx.receivedLine now) ++ tx.envelope.body)

/-- What is left of a transaction when its connection ends. -/
def finish (tx : Transaction) : Shared :=
  { tx.shared with cancelled := true }

end Transaction

/-- A transaction as someone outside its connection holds it: alive, or gone with its shared part
left. -/
inductive Held
  | alive (tx : Transaction)
  | gone (shared : Shared)

namespace Held

def shared : Held → Shared
  | .alive tx => tx.shared
  | .gone s => s

def mapMetadata (f : Metadata → Metadata) : Held → Held
  | .alive tx => .alive (tx.withMetadata (f tx.metadata))
  | .gone s => .gone { s with metadata := f s.metadata }

/-- Ends the transaction; ending it again changes nothing. -/
def drop : Held → Held
  | .alive tx => .gone tx.finish
  | .gone s => .gone s

end Held
end MailIntake
