import MailIntake.Daemon.Settings
/-!
The flags of the daemon.  Arguments are read from left to right.  A flag that takes a value waits
for it; the value is checked when the next flag comes or at the end, so that an unknown argument is
reported before a value that does not fit.
-/
namespace MailIntake.Daemon

open Text

inductive DiagFormat
  | pretty
  | full
  | compact
  | json
deriving DecidableEq, Repr

def DiagFormat.ofName? (name : String) : Option DiagFormat :=
  match name with
  | "pretty" => some .pretty
  | "full" => some .full
  | "compact" => some .compact
  | "json" => some .json
  | _ => none

/-- What the flags say. -/
structure Options where
  config : Option String := none
  listen : List String := []
  metricsListen : Option String := none
  hostname : Option String := none
  tlsCertificate : Option String := none
  tlsPrivateKey : Option String := none
  tlsClientCa : Option String := none
  requireTls : Bool := false
  spoolDir : Option String := none
  diagLogDir : Option String := none
  diagFormat : DiagFormat := .full
deriving DecidableEq, Repr

namespace Options

/-- Why the arguments are not taken; asking for help or the version is one reason. -/
inductive Error
  | displayHelp
  | displayVersion
  | unknownArgument
  /-- A value is missing or does not fit. -/
  | invalidValue
  /-- A flag that takes no value has one. -/
  | tooManyValues
  /-- A flag that may be given once is given again. -/
  | argumentConflict
deriving DecidableEq, Repr

/-- Flags that take a value. -/
inductive Valued
  | config
  | listen
  | metricsListen
  | hostname
  | tlsCertificate
  | tlsPrivateKey
  | tlsClientCa
  | spoolDir
  | diagLogDir
  | diagFormat
deriving DecidableEq, Repr

inductive Flag
  | valued (flag : Valued)
  | requireTls
  | help
  | version
deriving DecidableEq, Repr

def Flag.ofName? (name : String) : Option Flag :=
  match name with
  | "config" => some (.valued .config)
  | "listen" => some (.valued .listen)
  | "metrics-listen" => some (.valued .metricsListen)
  | "hostname" => some (.valued .hostname)
  | "tls-certificate" => some (.valued .tlsCertificate)
  | "tls-private-key" => some (.valued .tlsPrivateKey)
  | "tls-client-ca" => some (.valued .tlsClientCa)
  | "require-tls" => some .requireTls
  | "spool-dir" => some (.valued .spoolDir)
  | "diag-log-dir" => some (.valued .diagLogDir)
  | "diag-format" => some (.valued .diagFormat)
  | "help" => some .help
  | "version" => some .version
  | _ => none

/-- A path, which is not empty. -/
def path (value : String) : Except Error (Option String) :=
  if value.isEmpty then .error .invalidValue else .ok (some value)

def assign (o : Options) (flag : Valued) (value : String) : Except Error Options :=
  match flag with
  | .config => do return { o with config := ← path value }
  | .listen => .ok { o with listen := o.listen ++ [value] }
  | .metricsListen => .ok { o with metricsListen := some value }
  | .hostname => .ok { o with hostname := some value }
  | .tlsCertificate => do return { o with tlsCertificate := ← path value }
  | .tlsPrivateKey => do return { o with tlsPrivateKey := ← path value }
  | .tlsClientCa => do return { o with tlsClientCa := ← path value }
  | .spoolDir => do return { o with spoolDir := ← path value }
  | .diagLogDir => do return { o with diagLogDir := ← path value }
  | .diagFormat =>
      match DiagFormat.ofName? value with
      | some format => .ok { o with diagFormat := format }
      | none => .error .invalidValue

/-- Arguments being read. -/
structure Reading where
  options : Options := {}
  /-- Flags that were given. -/
  given : List Flag := []
  /-- The flag that waits for a value or has just got it. -/
  pending : Option (Valued × Option String) := none

namespace Reading

def give (r : Reading) (flag : Valued) (value : String) : Except Error Reading := do
  if flag ≠ .listen ∧ r.given.contains (.valued flag) then throw .argumentConflict
  let options ← r.options.assign flag value
  return { r with options := options, given := .valued flag :: r.given }

/-- Takes the value of the pending flag; there must be one. -/
def settle (r : Reading) : Except Error Reading :=
  match r.pending with
  | none => .ok r
  | some (_, none) => .error .invalidValue
  | some (flag, some value) => { r with pending := none }.give flag value

def raise (r : Reading) (flag : Flag) : Except Error Reading := do
  let r ← r.settle
  match flag with
  | .help => throw .displayHelp
  | .version => throw .displayVersion
  | .requireTls =>
      if r.given.contains .requireTls then throw .argumentConflict
      return { r with
        options := { r.options with requireTls := true }, given := .requireTls :: r.given }
  | .valued flag => return { r with pending := some (flag, none) }

/-- Takes a long flag, with its value if one is attached. -/
def long (r : Reading) (name : String) (value : Option String) : Except Error Reading :=
  match Flag.ofName? name, value with
  | none, _ => .error .unknownArgument
  | some (.valued flag), some value => do
      let r ← r.settle
      r.give flag value
  | some _, some _ => .error .tooManyValues
  | some flag, none => r.raise flag

/-- Takes short flags: only those for help and version are known. -/
def short (r : Reading) : List Char → Except Error Reading
  | 'h' :: _ => r.raise .help
  | 'V' :: _ => r.raise .version
  | _ => .error .unknownArgument

/-- Takes an argument that is no flag: the value that a flag waits for, or one too many. -/
def plain (r : Reading) (value : String) : Except Error Reading :=
  match r.pending with
  | some (flag, none) => .ok { r with pending := some (flag, some value) }
  | _ => .error .unknownArgument

def take (r : Reading) (argument : String) : Except Error Reading :=
  match argument.toList with
  | '-' :: '-' :: name =>
      match cutOnce (· == '=') name with
      | some (name, value) => r.long (String.ofList name) (some (String.ofList value))
      | none => r.long (String.ofList name) none
  | '-' :: c :: rest => r.short (c :: rest)
  | _ => r.plain argument

end Reading

/-- The options in the arguments.  Two dashes end the flags, and nothing may follow them. -/
def readFrom (r : Reading) : List String → Except Error Options
  | [] => r.settle.map Reading.options
  | argument :: rest =>
      if argument = "--" then
        if rest.isEmpty then r.settle.map Reading.options else .error .unknownArgument
      else do
        readFrom (← r.take argument) rest

def parse (arguments : List String) : Except Error Options :=
  readFrom {} arguments

/-- The settings with the options laid over them. -/
def apply (o : Options) (s : Settings) : Settings :=
  { s with
    listen := if o.listen.isEmpty then s.listen else o.listen
    metricsListen := o.metricsListen.or s.metricsListen
    tlsCertificate := o.tlsCertificate.or s.tlsCertificate
    tlsPrivateKey := o.tlsPrivateKey.or s.tlsPrivateKey
    tlsClientCa := o.tlsClientCa.or s.tlsClientCa
    spoolDir := o.spoolDir.or s.spoolDir
    server := { s.server with
      hostname := o.hostname.or s.server.hostname
      requireTls := o.requireTls || s.server.requireTls } }

end Options
end MailIntake.Daemon
