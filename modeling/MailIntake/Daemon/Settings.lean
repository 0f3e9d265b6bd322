import MailIntake.Settings
import MailIntake.Toml.Document
/-!
The settings of the daemon: those of its server, and where it listens, what it reads and where it
writes.  Both kinds stand side by side in one configuration file.
-/
namespace MailIntake.Daemon

structure Settings where
  server : MailIntake.Settings := {}
  /-- Endpoints for mail. -/
  listen : List String := []
  /-- Endpoint for metrics. -/
  metricsListen : Option String := none
  tlsCertificate : Option String := none
  tlsPrivateKey : Option String := none
  /-- Certificates of clients are checked against this authority. -/
  tlsClientCa : Option String := none
  /-- Users and their passwords; if there are any, clients must authenticate. -/
  users : List (String × String) := []
  /-- Accepted messages are written into this directory. -/
  spoolDir : Option String := none

namespace Settings

/-- What is wrong with a configuration file. -/
inductive Error
  /-- The text is not TOML. -/
  | notToml
  /-- A setting does not fit. -/
  | setting (error : MailIntake.Settings.Error)

def texts? : Value → Option (List String)
  | .array items => items.mapM MailIntake.Settings.text?
  | _ => none

/-- The key under which a moment stands where a table is asked for. -/
def momentKey : String := "$__toml_private_datetime"

/-- A table of texts.  A moment counts as a table with one entry, its text. -/
def textTable? : Value → Option (List (String × String))
  | .table entries => entries.mapM fun (key, v) =>
      (MailIntake.Settings.text? v).map fun s => (key, s)
  | .moment s => some [(momentKey, s)]
  | _ => none

/-- The settings that entries give; other keys are left alone. -/
def ofEntries (entries : List (String × Value)) :
    Except MailIntake.Settings.Error Settings := do
  let path (key : String) : Except MailIntake.Settings.Error (Option String) :=
    MailIntake.Settings.read entries key MailIntake.Settings.optionalText? none
  return {
    listen := ← MailIntake.Settings.read entries "listen" texts? []
    metricsListen := ← path "metrics_listen"
    tlsCertificate := ← path "tls_certificate"
    tlsPrivateKey := ← path "tls_private_key"
    tlsClientCa := ← path "tls_client_ca"
    users := ← MailIntake.Settings.read entries "users" textTable? []
    spoolDir := ← path "spool_dir"
    server := ← MailIntake.Settings.ofEntries entries }

def parse (text : String) : Except Error Settings :=
  match Toml.parse? text with
  | none => .error .notToml
  | some entries =>
      match ofEntries entries with
      | .ok s => .ok s
      | .error e => .error (.setting e)

end Settings
end MailIntake.Daemon
