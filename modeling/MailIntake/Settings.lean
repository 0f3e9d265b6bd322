import MailIntake.Duration
import MailIntake.Value
/-!
The settings of a server: what each means, its default, and how a configuration value is read as
settings and settings are written as a value.
-/
namespace MailIntake

structure Settings where
  /-- The name in the banner; without one, the name of the machine. -/
  hostname : Option String := none
  /-- The text behind the name in the banner. -/
  banner : String := "ESMTP ready."
  /-- The most bytes of a message. -/
  maxMessageSize : UInt64 := 10240000
  /-- The most recipients of a message. -/
  maxRecipients : UInt64 := 100
  /-- The most connections at a time: zero is the default limit, below zero there is none. -/
  maxConnections : Int64 := 0
  /-- How long a command or a response may take. -/
  readTimeout : Duration := .ofSeconds 60
  /-- How long sending a reply may take. -/
  writeTimeout : Duration := .ofSeconds 60
  /-- How long a message body may take. -/
  dataTimeout : Duration := .ofSeconds 300
  /-- How long the reverse lookup may take. -/
  dnsTimeout : Duration := .ofSeconds 5
  /-- Senders are refused until the connection is encrypted. -/
  requireTls : Bool := false
  /-- Encryption starts with the connection. -/
  implicitTls : Bool := false
  /-- Clients may speak for others by XCLIENT. -/
  enableXclient : Bool := false
  /-- Clients may name the peer behind them by PROXY. -/
  enableProxyProtocol : Bool := false
  /-- No reverse lookups. -/
  skipReverseDns : Bool := false
deriving DecidableEq, Repr

namespace Settings

/-- The limit on connections when none is set. -/
def defaultConnectionLimit : Nat := 100

/-- How many connections may be served at a time, or no limit. -/
def connectionLimit (s : Settings) : Option Nat :=
  if s.maxConnections = 0 then some defaultConnectionLimit
  else if s.maxConnections < 0 then none
  else some s.maxConnections.toInt.toNat

/-- The name in the banner, on a machine of the given name. -/
def effectiveHostname (s : Settings) (machine : String) : String :=
  match s.hostname with
  | some name => if name.isEmpty then machine else name
  | none => machine

/-- What is wrong with a value that is not settings. -/
inductive Error
  /-- The value is neither a table nor a list. -/
  | notATable
  /-- The list has more items than there are settings. -/
  | tooManyItems
  /-- The value of a setting is not of its kind or out of its range. -/
  | invalid (key : String)
deriving DecidableEq, Repr

def text? : Value → Option String
  | .text s => some s
  | _ => none

def optionalText? : Value → Option (Option String)
  | .null => some none
  | .text s => some (some s)
  | _ => none

def bool? : Value → Option Bool
  | .bool b => some b
  | _ => none

/-- A number of 64 bits without sign. -/
def size? : Value → Option UInt64
  | .integer n =>
      if 0 ≤ n ∧ n.toNat < UInt64.size then some (UInt64.ofNat n.toNat) else none
  | _ => none

/-- A number of 64 bits with sign. -/
def count? : Value → Option Int64
  | .integer n =>
      if Int64.minValue.toInt ≤ n ∧ n ≤ Int64.maxValue.toInt then some (Int64.ofInt n) else none
  | _ => none

/-- A span: a number of seconds, or a text with units. -/
def duration? : Value → Option Duration
  | .text s => Duration.parse? s
  | v => (size? v).map .ofSeconds

/-- The setting under a key by its reader, or its default where there is no such key. -/
def read {A : Type} (entries : List (String × Value)) (key : String) (reader : Value → Option A)
    (default : A) : Except Error A :=
  match Value.lookup entries key with
  | none => .ok default
  | some v =>
      match reader v with
      | some a => .ok a
      | none => .error (.invalid key)

/-- The settings that entries give; other keys are left alone. -/
def ofEntries (entries : List (String × Value)) : Except Error Settings := do
  let default : Settings := {}
  return {
    hostname := ← read entries "hostname" optionalText? default.hostname
    banner := ← read entries "banner" text? default.banner
    maxMessageSize := ← read entries "max_message_size" size? default.maxMessageSize
    maxRecipients := ← read entries "max_recipients" size? default.maxRecipients
    maxConnections := ← read entries "max_connections" count? default.maxConnections
    readTimeout := ← read entries "read_timeout" duration? default.readTimeout
    writeTimeout := ← read entries "write_timeout" duration? default.writeTimeout
    dataTimeout := ← read entries "data_timeout" duration? default.dataTimeout
    dnsTimeout := ← read entries "dns_timeout" duration? default.dnsTimeout
    requireTls := ← read entries "require_tls" bool? default.requireTls
    implicitTls := ← read entries "implicit_tls" bool? default.implicitTls
    enableXclient := ← read entries "enable_xclient" bool? default.enableXclient
    enableProxyProtocol :=
      ← read entries "enable_proxy_protocol" bool? default.enableProxyProtocol
    skipReverseDns := ← read entries "skip_reverse_dns" bool? default.skipReverseDns }

/-- The keys in the order in which a list gives their values. -/
def keys : List String :=
  ["hostname", "banner", "max_message_size", "max_recipients", "max_connections", "read_timeout",
    "write_timeout", "data_timeout", "dns_timeout", "require_tls", "implicit_tls",
    "enable_xclient", "enable_proxy_protocol", "skip_reverse_dns"]

/-- The settings that a value gives: a table by key, or a list by position. -/
def ofValue : Value → Except Error Settings
  | .table entries => ofEntries entries
  | .array items =>
      if keys.length < items.length then .error .tooManyItems else ofEntries (keys.zip items)
  | _ => .error .notATable

def toValue (s : Settings) : Value :=
  .table [
    ("hostname", match s.hostname with | some name => .text name | none => .null),
    ("banner", .text s.banner),
    ("max_message_size", .integer s.maxMessageSize.toNat),
    ("max_recipients", .integer s.maxRecipients.toNat),
    ("max_connections", .integer s.maxConnections.toInt),
    ("read_timeout", .text s.readTimeout.render),
    ("write_timeout", .text s.writeTimeout.render),
    ("data_timeout", .text s.dataTimeout.render),
    ("dns_timeout", .text s.dnsTimeout.render),
    ("require_tls", .bool s.requireTls),
    ("implicit_tls", .bool s.implicitTls),
    ("enable_xclient", .bool s.enableXclient),
    ("enable_proxy_protocol", .bool s.enableProxyProtocol),
    ("skip_reverse_dns", .bool s.skipReverseDns)]

end Settings
end MailIntake
