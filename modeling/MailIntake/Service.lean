import MailIntake.Resolver
import MailIntake.Settings
import MailIntake.Stage
/-!
A service: settings, checkers and everything else that connections are served with.  Settings that
call for encryption need the material for it.
-/
namespace MailIntake

universe u

/-- What a service is made from. -/
structure Setup (W : Type u) where
  settings : Settings := {}
  pipelines : Pipelines W := {}
  /-- Judges credentials; with one, senders have to authenticate. -/
  authenticator : Option (Authenticator W) := none
  /-- There is a certificate to encrypt with. -/
  offersTls : Bool := false
  resolver : Resolver := .unavailable

/-- A service under the name that it greets with. -/
structure Service (W : Type u) extends Setup W where
  hostname : String

/-- Why a setup makes no service. -/
inductive SetupError
  | requiredTlsMissing
  | implicitTlsMissing
deriving DecidableEq, Repr

def SetupError.message : SetupError → String
  | .requiredTlsMissing =>
      "invalid configuration: require_tls is set but no TLS configuration was provided"
  | .implicitTlsMissing =>
      "invalid configuration: implicit_tls is set but no TLS configuration was provided"

/-- The service that a setup makes on a machine of the given name. -/
def Setup.build {W : Type u} (setup : Setup W) (machine : String) :
    Except SetupError (Service W) :=
  if setup.settings.requireTls ∧ ¬ setup.offersTls then .error .requiredTlsMissing
  else if setup.settings.implicitTls ∧ ¬ setup.offersTls then .error .implicitTlsMissing
  else .ok { setup with hostname := setup.settings.effectiveHostname machine }

end MailIntake
