import MailIntake.Address.Ip
import MailIntake.Certificate
import MailIntake.Daemon.Options
import MailIntake.Key.Private
import MailIntake.Office
import MailIntake.Pem
import MailIntake.Service
/-!
How the daemon starts: it reads its configuration, its keys and its certificates, makes the spool
directory and binds its listeners, in this order, and stops at the first thing that fails.
-/
namespace MailIntake.Daemon

open Address Text

universe u

structure Machine where
  /-- The name of the machine. -/
  name : String
  /-- Files that can be read, by path. -/
  files : List (String × List UInt8) := []
  /-- The endpoint that a text names, if one of this machine. -/
  endpoint? : String → Option Endpoint

inductive StartError
  | configUnreadable (path : String)
  | configMalformed (path : String)
  | noListeners
  | fileUnreadable (path : String)
  | keyMalformed (path : String)
  /-- A key cannot be made for a name beyond ASCII. -/
  | nameUnusable (name : String)
  | certificatesMalformed (path : String)
  | authorityMalformed (error : Pem.Error)
  | authorityEmpty
  | authorityUnusable (error : Certificate.Error)
  | keyUnusable
  | certificateMissing
  | certificateUnusable (error : Certificate.Error)
  | certificateOfOtherKey
  | setup (error : SetupError)
  | spoolUnusable (path : String)
  | cannotBind (endpoint : String)
  | cannotBindMetrics (endpoint : String)
deriving DecidableEq, Repr

def StartError.message : StartError → String
  | .configUnreadable path => "reading config file " ++ path
  | .configMalformed path => "parsing config file " ++ path
  | .noListeners =>
      "No listeners defined! use the --listen option or the " ++ "\x60listen\x60"
        ++ " config setting to specify at least one!"
  | .fileUnreadable path => "reading " ++ path
  | .keyMalformed path => "loading private key from " ++ path
  | .nameUnusable name => "Invalid IA5String: '" ++ name ++ "'"
  | .certificatesMalformed path => "loading certificates from " ++ path
  | .authorityMalformed e => e.message
  | .authorityEmpty => "failed to parse certs"
  | .authorityUnusable e | .certificateUnusable e => "invalid peer certificate: " ++ e.message
  | .keyUnusable =>
      "unexpected error: failed to parse private key as RSA, ECDSA, or EdDSA"
  | .certificateMissing => "peer sent no certificates"
  | .certificateOfOtherKey => "keys may not be consistent: KeyMismatch"
  | .setup e => e.message
  | .spoolUnusable path => "creating spool directory " ++ path
  | .cannotBind endpoint => "failed to bind to " ++ endpoint
  | .cannotBindMetrics endpoint => "listen on " ++ endpoint

/-- The names on a path; empty names and single dots lead nowhere. -/
def pathNames (path : String) : List String :=
  ((splitOn (· == '/') path.toList).map String.ofList).filter fun name => name != "" && name != "."

namespace Machine

def file? (m : Machine) (path : String) : Option (List UInt8) :=
  (m.files.find? fun entry => pathNames entry.1 == pathNames path).map (·.2)

/-- Whether a directory can be made: no file may stand where a directory has to be. -/
def canMakeDirectory (m : Machine) (path : String) : Bool :=
  m.files.all fun entry => !(pathNames entry.1).isPrefixOf (pathNames path)

end Machine

/-- The settings under which the daemon starts: those of the configuration file, if one is named,
with the flags laid over them. -/
def settingsFor (m : Machine) (options : Options) : Except StartError Settings :=
  match options.config with
  | none => .ok (options.apply {})
  | some path =>
      match (m.file? path).bind Utf8.decode? with
      | none => .error (.configUnreadable path)
      | some text =>
          match Settings.parse text with
          | .error _ => .error (.configMalformed path)
          | .ok s => .ok (options.apply s)

/-- A file that has to be there. -/
def readFile (m : Machine) (path : String) : Except StartError (List UInt8) :=
  match m.file? path with
  | some file => .ok file
  | none => .error (.fileUnreadable path)

/-- The private key, or none if a new one is made for a name. -/
def privateKey (m : Machine) (s : Settings) (name : String) :
    Except StartError (Option Pem.Block) :=
  match s.tlsPrivateKey with
  | none =>
      if name.toList.all fun c => c.toNat < 0x80 then .ok none else .error (.nameUnusable name)
  | some path => do
      match Pem.firstKey? (← readFile m path) with
      | some key => .ok (some key)
      | none => .error (.keyMalformed path)

/-- The certificates of a file, if one is named. -/
def ownCertificates (m : Machine) (s : Settings) :
    Except StartError (Option (List (List UInt8))) :=
  match s.tlsCertificate with
  | none => .ok none
  | some path => do
      match Pem.certificates (← readFile m path) with
      | .ok certificates => .ok (some certificates)
      | .error _ => .error (.certificatesMalformed path)

/-- Takes certificates for an authority up to the first that cannot be used. -/
def takeAuthorities : List (Except Pem.Error Pem.Block) → Nat → Except StartError Nat
  | [], taken => .ok taken
  | .error e :: _, _ => .error (.authorityMalformed e)
  | .ok block :: more, taken =>
      if block.label ≠ "CERTIFICATE" then takeAuthorities more taken
      else
        match Certificate.checkAuthority block.content with
        | .ok _ => takeAuthorities more (taken + 1)
        | .error e => .error (.authorityUnusable e)

/-- Checks the authority for the certificates of clients, if one is named. -/
def clientAuthority (m : Machine) (s : Settings) : Except StartError Unit :=
  match s.tlsClientCa with
  | none => .ok ()
  | some path => do
      let taken ← takeAuthorities (Pem.read (← readFile m path)) 0
      if taken = 0 then .error .authorityEmpty else .ok ()

/-- How the private key under a label is written. -/
def keyForm (label : String) : Key.Form :=
  match label with
  | "RSA PRIVATE KEY" => .rsa
  | "EC PRIVATE KEY" => .curve
  | _ => .named

/-- The public key of the private key, or none if that one is new. -/
def publicKey (key : Option Pem.Block) : Except StartError (Option Key.PublicKey) :=
  match key with
  | none => .ok none
  | some block =>
      match Key.publicKey? block.content (keyForm block.label) with
      | some k => .ok (some k)
      | none => .error .keyUnusable

/-- Whether a key and certificates go together: the first certificate has to be of the key.  A new
key comes with a certificate of its own, and no certificate from elsewhere can be of that key. -/
def matchKey (key : Option Pem.Block) (certificates : Option (List (List UInt8))) :
    Except StartError Unit := do
  let known ← publicKey key
  match known, certificates with
  | none, none => return
  | some _, none | _, some [] => throw .certificateMissing
  | _, some (first :: _) =>
      match Certificate.read .holder first with
      | .error e => throw (.certificateUnusable e)
      | .ok c => if known.all (·.info ≠ c.keyInfo) then throw .certificateOfOtherKey

/-- Checks all that encryption needs. -/
def checkTls (m : Machine) (s : Settings) : Except StartError Unit := do
  let key ← privateKey m s (s.server.effectiveHostname m.name)
  let certificates ← ownCertificates m s
  clientAuthority m s
  matchKey key certificates

/-- An endpoint with a port of its choice is taken once. -/
def isTaken (taken : List Endpoint) (e : Endpoint) : Bool :=
  e.port != 0 && taken.contains e

def bind? (m : Machine) (taken : List Endpoint) (text : String) : Option (List Endpoint) :=
  match m.endpoint? text with
  | some e => if isTaken taken e then none else some (e :: taken)
  | none => none

def bindAll (m : Machine) : List Endpoint → List String → Except StartError (List Endpoint)
  | taken, [] => .ok taken
  | taken, text :: more =>
      match bind? m taken text with
      | some taken => bindAll m taken more
      | none => .error (.cannotBind text)

def bindMetrics (m : Machine) (s : Settings) (taken : List Endpoint) : Except StartError Unit :=
  match s.metricsListen with
  | none => .ok ()
  | some text => if (bind? m taken text).isSome then .ok () else .error (.cannotBindMetrics text)

/-- Makes the spool directory, if one is wanted. -/
def makeSpool (m : Machine) (s : Settings) : Except StartError Unit :=
  match s.spoolDir with
  | none => .ok ()
  | some path => if m.canMakeDirectory path then .ok () else .error (.spoolUnusable path)

/-- The checkers of the daemon: every message gets a trace field and is delivered, and ends of
connections are noted. -/
def pipelines : Pipelines Office where
  data := [Office.stampReceived]
  handlers := [Office.deliver]
  close := [Office.logClose]

/-- The server of the daemon.  With users, clients have to authenticate. -/
def setupOf (s : Settings) : Setup Office where
  settings := s.server
  pipelines := pipelines
  authenticator := if s.users.isEmpty then none else some (Users.authenticator s.users)
  offersTls := true

structure Started where
  settings : Settings
  service : Service Office

def start (m : Machine) (options : Options) : Except StartError Started := do
  let s ← settingsFor m options
  if s.listen.isEmpty then throw .noListeners
  checkTls m s
  match (setupOf s).build m.name with
  | .error e => throw (.setup e)
  | .ok service =>
      makeSpool m s
      let taken ← bindAll m [] s.listen
      bindMetrics m s taken
      return { settings := s, service }

end MailIntake.Daemon
