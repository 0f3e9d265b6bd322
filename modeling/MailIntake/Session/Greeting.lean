import MailIntake.Proxy
import MailIntake.Session.Basic
import MailIntake.XClient
import MailIntake.Sasl
/-!
Who the client is: the names of its address, the banner, the greeting, and the commands by which a
trusted proxy or client speaks for someone else.
-/
namespace MailIntake.Turn

open Address

universe u

variable {W : Type u}

def greet (service : Service W) (t : Turn W) : Turn W :=
  t.reply 220 (service.hostname ++ " " ++ service.settings.banner)

/-- The names that a service looks up for an address.  A lookup that fails or takes too long finds
none. -/
def namesOf (service : Service W) (ip : Ip) : List String :=
  if service.settings.skipReverseDns then []
  else
    match service.resolver.names ip with
    | .found names => names
    | .failed _ | .pending => []

/-- Looks up the names of the client's address. -/
def lookUpNames (service : Service W) (t : Turn W) : Turn W :=
  t.mapPeer fun p => { p with ptrs := namesOf service p.remoteAddr.ip }

/-- The extensions that a greeting is answered with, a line each. -/
def extensions (service : Service W) (t : Turn W) : List String :=
  [service.hostname, "SIZE " ++ toString service.settings.maxMessageSize.toNat, "8BITMIME",
      "PIPELINING"]
    ++ (if service.settings.enableXclient then ["XCLIENT " ++ XClientAttributes.advertised] else [])
    ++ (if service.offersTls ∧ ¬ t.transaction.peer.encrypted then ["STARTTLS"] else [])
    ++ (if service.authenticator.isSome ∧ t.transaction.peer.encrypted then
        ["AUTH " ++ Sasl.advertised] else [])

def greetingText (service : Service W) (protocol : Protocol) (t : Turn W) : String :=
  match protocol with
  | .smtp => "Go ahead"
  | .esmtp => "\n".intercalate (extensions service t)

/-- HELO and EHLO: the client gives its name, and any message at hand is forgotten.  If a checker
refuses, the earlier greeting stays. -/
def helo (service : Service W) (protocol : Protocol) (line : CommandLine) (t : Turn W) : Turn W :=
  match line.argument? with
  | none => (t.refuse Karma.badParameter 502 "Missing parameter").conclude
  | some name =>
      let before := t.transaction.peer
      let greeted := t.mapPeer fun p => { p with helo := some name, protocol := protocol }
      match greeted.runStage service .helo with
      | (t, some r) =>
          let restored := t.mapPeer fun p =>
            { p with helo := before.helo, protocol := before.protocol }
          (restored.replyRefusal r).conclude
      | (t, none) =>
          let t := t.resetEnvelope.reward Karma.commandExecuted
          (t.reply 250 (greetingText service protocol t)).conclude

/-- PROXY: the proxy in front names the client, as the first command on a connection.  The banner is
written again, for the proxy took the first one. -/
def proxy (service : Service W) (line : CommandLine) (t : Turn W) : Turn W :=
  if ¬ service.settings.enableProxyProtocol then
    (t.reply 550 "Proxy Protocol not enabled").conclude
  else if 0 < t.commands then
    (t.refuse Karma.orderViolation 502 "PROXY must be the first command").conclude
  else
    match ProxyHeader.ofFields line.fields with
    | .error e => (t.refuse Karma.badParameter 502 e.message).conclude
    | .ok header =>
        let t := (t.mapPeer fun p => { p with remoteAddr := header.source }).lookUpNames service
        (t.greet service).conclude

def protocolOf : XClientProto → Protocol
  | .smtp => .smtp
  | .esmtp => .esmtp

/-- The protocol state with the attributes that are set, the address aside. -/
def withAttributes (attributes : XClientAttributes) (p : Peer) : Peer :=
  { p with
    helo := attributes.helo <|> p.helo
    username := attributes.login <|> p.username
    protocol := (attributes.proto.map protocolOf).getD p.protocol }

/-- Takes over an address that an attribute list gives in full. -/
def moveTo (service : Service W) (attributes : XClientAttributes) (t : Turn W) : Turn W :=
  match attributes.addr, attributes.port with
  | some ip, some port =>
      (t.mapPeer fun p => { p with remoteAddr := ⟨ip, port⟩ }).lookUpNames service
  | _, _ => t

/-- XCLIENT: a trusted client speaks for another one and is greeted again. -/
def xclient (service : Service W) (line : CommandLine) (t : Turn W) : Turn W :=
  if ¬ service.settings.enableXclient then (t.reply 550 "XCLIENT not enabled").conclude
  else
    match XClientAttributes.parse line.arguments with
    | .error e => (t.refuse Karma.badParameter 502 e.message).conclude
    | .ok attributes =>
        let t := (t.moveTo service attributes).mapPeer (withAttributes attributes)
        (t.greet service).conclude

end MailIntake.Turn
