import MailIntake.Daemon.Startup
import MailIntake.Trial.Run
/-!
The daemon on trial: it is started with flags on a machine, one client talks to it by a script, and
then it is told to end.
-/
namespace MailIntake.Trial

/-- A service of the office in the world of a trial, where nothing is recorded. -/
def Scene.serviceInOffice (service : Service Office) : Service Scene where
  settings := service.settings
  pipelines := {
    connection := service.pipelines.connection.map inOffice
    helo := service.pipelines.helo.map inOffice
    sender := service.pipelines.sender.map inOffice
    recipient := service.pipelines.recipient.map fun checker candidate => inOffice (checker candidate)
    data := service.pipelines.data.map inOffice
    handlers := service.pipelines.handlers.map inOffice
    close := service.pipelines.close.map inOffice }
  authenticator := service.authenticator.map fun judge username password =>
    inOffice (judge username password)
  offersTls := service.offersTls
  resolver := service.resolver
  hostname := service.hostname

structure DaemonPlan where
  machine : Daemon.Machine
  arguments : List String := []
  /-- What the client does; without a client, the daemon is expected not to start. -/
  steps : Option (List Step) := none
  network : Network := .reachable
  now : Moment := ⟨0⟩

inductive DaemonResult
  /-- The arguments were not taken. -/
  | options (error : Daemon.Options.Error)
  /-- The daemon did not start. -/
  | startup (error : Daemon.StartError)
  /-- The client could not talk to it. -/
  | unreachable
  /-- The daemon ran and ended: what its client heard, and what is in the spool. -/
  | ended (outcomes : List Outcome) (files : List (String × List UInt8))

namespace DaemonPlan

def stateOf (plan : DaemonPlan) (started : Daemon.Started) : State :=
  let spool := started.settings.spoolDir.map fun _ => Spool.directory {}
  let scene : Scene := { office := { now := plan.now, spool } }
  let tls : TlsMaterial :=
    if started.settings.tlsClientCa.isSome then .withClientCa else .own
  { server := .start (Scene.serviceInOffice started.service) scene, network := plan.network, tls }

def talk (plan : DaemonPlan) (started : Daemon.Started) (steps : List Step) : DaemonResult :=
  match (plan.stateOf started).steps? steps with
  | none => .unreachable
  | some (outcomes, state) =>
      .ended outcomes ((state.finish.server.world.office.spool.map Spool.files).getD [])

/-- Carries out a trial.  A client that finds no way to the daemon cannot tell how it started. -/
def run (plan : DaemonPlan) : DaemonResult :=
  match Daemon.Options.parse plan.arguments with
  | .error e => .options e
  | .ok options =>
      match Daemon.start plan.machine options, plan.steps with
      | .error e, none => .startup e
      | .error e, some _ => if plan.network = .unreachable then .unreachable else .startup e
      | .ok started, none => plan.talk started []
      | .ok started, some steps =>
          if plan.network = .unreachable then .unreachable else plan.talk started steps

end DaemonPlan
end MailIntake.Trial
