import MailIntake.Daemon.Startup
import MailIntake.Server
import Std.Time.DateTime.Timestamp
/-!
The command line.  The daemon takes its flags, reads its configuration and serves the connection on
its standard input and output, as a listener hands one over.  Such a connection cannot be encrypted
on the way, so no encryption is offered on it.
-/
namespace MailIntake.CommandLineTool

open Address Daemon

/-- What is shown to those who ask for help. -/
def usage : String :=
  "A programmable SMTP server\n\n"
    ++ "  --config FILE           Load settings from this TOML file\n"
    ++ "  --listen ADDR           Accept SMTP connections on this address\n"
    ++ "  --metrics-listen ADDR   Serve prometheus metrics at /metrics on this address\n"
    ++ "  --hostname NAME         The name to announce in the banner and in EHLO\n"
    ++ "  --tls-certificate FILE  PEM encoded certificate chain for STARTTLS\n"
    ++ "  --tls-private-key FILE  PEM encoded private key for STARTTLS\n"
    ++ "  --tls-client-ca FILE    PEM encoded CA used to verify client certificates\n"
    ++ "  --require-tls           Refuse MAIL until the client has issued STARTTLS\n"
    ++ "  --spool-dir DIR         Write accepted messages into this directory\n"
    ++ "  --diag-log-dir DIR      Write diagnostic logs into this directory\n"
    ++ "  --diag-format FORMAT    How to format diagnostic logs\n"

/-- What is said of flags that are not taken, and the exit code. -/
def report : Options.Error → String × UInt32
  | .displayHelp => (usage, 0)
  | .displayVersion => ("0.1.0\n", 0)
  | .unknownArgument => ("error: unexpected argument\n", 2)
  | .invalidValue => ("error: invalid value\n", 2)
  | .tooManyValues => ("error: unexpected value\n", 2)
  | .argumentConflict => ("error: argument given more than once\n", 2)

def readFiles (paths : List String) : IO (List (String × List UInt8)) :=
  paths.filterMapM fun (path : String) => do
    try
      let content ← IO.FS.readBinFile path
      return some (path, content.toList)
    catch _ => return none

def machineName : IO String := do
  try
    let text ← IO.FS.readFile "/etc/hostname"
    return Text.trim text
  catch _ => return "localhost"

/-- What the daemon finds on this machine. -/
def thisMachine (options : Options) : IO Machine := do
  let name ← machineName
  let config ← readFiles options.config.toList
  let m : Machine := { name, files := config, endpoint? := Endpoint.parse? }
  match settingsFor m options with
  | .error _ => return m
  | .ok s =>
      let paths := [s.tlsPrivateKey, s.tlsCertificate, s.tlsClientCa].filterMap id
      return { m with files := config ++ (← readFiles paths) }

def present : IO Moment := do
  let now ← Std.Time.Timestamp.now
  return ⟨now.toSecondsSinceUnixEpoch.val.toNat⟩

def freshId : IO TransactionId := do
  let bytes ← IO.getRandomBytes 16
  return ⟨BitVec.ofNat 128 (bytes.toList.foldl (fun n b => n * 256 + b.toNat) 0)⟩

def writeSpool (s : Daemon.Settings) (server : MailIntake.Server Office) : IO Unit :=
  match s.spoolDir, server.world.spool with
  | some directory, some spool =>
      spool.files.forM fun (name, content) =>
        IO.FS.writeBinFile (directory ++ "/" ++ name) ⟨content.toArray⟩
  | _, _ => return ()

/-- Writes what the session has said behind its first events. -/
def speak (server : MailIntake.Server Office) (known : Nat) (out : IO.FS.Stream) : IO Nat := do
  match server.sessions[0]? with
  | none => return known
  | some session =>
      let fresh := (session.journal.take (session.journal.length - known)).reverse
      out.putStr (String.join ((fresh.filterMap Event.reply?).map Reply.render))
      out.flush
      return session.journal.length

/-- Serves the one session until it has ended. -/
partial def converse (s : Daemon.Settings) (server : MailIntake.Server Office) (known : Nat)
    (input output : IO.FS.Stream) : IO Unit := do
  let known ← speak server known output
  match server.sessions[0]? with
  | none => return ()
  | some session =>
      if session.isClosed then return ()
      let chunk ← input.read 4096
      let event : Input := if chunk.isEmpty then .ended else .bytes chunk.toList
      let server := { server with world := { server.world with now := ← present } }
      let server := server.advance 0 event
      writeSpool s server
      converse s server known input output

/-- Serves the connection on the standard streams. -/
def serve (started : Started) : IO Unit := do
  let s := started.settings
  s.spoolDir.forM fun directory => IO.FS.createDirAll directory
  let spool := s.spoolDir.map fun _ => Spool.directory {}
  let office : Office := { now := ← present, spool }
  let server := MailIntake.Server.start { started.service with offersTls := false } office
  let unknown : Endpoint := ⟨.v4 ⟨0, 0, 0, 0⟩, 0⟩
  let (_, server) := server.arrive (← freshId) unknown unknown
  converse s server 0 (← IO.getStdin) (← IO.getStdout)

def run (arguments : List String) : IO UInt32 := do
  match Options.parse arguments with
  | .error e =>
      let (text, code) := report e
      IO.eprint text
      return code
  | .ok options =>
      match start (← thisMachine options) options with
      | .error e =>
          IO.eprintln e.message
          return 1
      | .ok started =>
          serve started
          return 0

end MailIntake.CommandLineTool

def main (arguments : List String) : IO UInt32 :=
  MailIntake.CommandLineTool.run arguments
