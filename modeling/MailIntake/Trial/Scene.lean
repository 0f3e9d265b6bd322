import MailIntake.Rule
import MailIntake.Service
/-!
The world of a trial: the office that its rules work on, and a record of every run of a stage.  A
server on trial has a recorder in front of the checkers of each stage.
-/
namespace MailIntake.Trial

open Address

/-- Where in a connection a record was made. -/
inductive Station
  | stage (stage : Stage)
  /-- Credentials were judged. -/
  | auth (username password : String)
deriving DecidableEq, Repr

/-- A run of a stage as its first checker saw it. -/
structure Record where
  /-- The number of the connection, if its first stage has run. -/
  connection : Option Nat
  station : Station
  transaction : Transaction
  /-- The client's address is that of its end of the connection. -/
  isPeer : Bool

/-- A connection whose first stage has run: its identifier and its peer's address. -/
structure Arrived where
  id : TransactionId
  peer : Endpoint
deriving DecidableEq, Repr

structure Scene where
  office : Office
  /-- The connections whose first stage has run, in this order. -/
  connections : List Arrived := []
  /-- What was recorded, the latest first. -/
  records : List Record := []

namespace Scene

def numberOf (scene : Scene) (id : TransactionId) : Option Nat :=
  scene.connections.findIdx? (·.id == id)

def register (station : Station) (tx : Transaction) (scene : Scene) : Scene :=
  match station with
  | .stage .connection =>
      { scene with connections := scene.connections ++ [⟨tx.shared.id, tx.peer.remoteAddr⟩] }
  | _ => scene

/-- Whether the client's address is that of its end of the connection.  Before the first stage
nothing can have replaced it. -/
def isPeer (scene : Scene) (tx : Transaction) : Bool :=
  match scene.connections.find? (·.id == tx.shared.id) with
  | some arrived => arrived.peer == tx.peer.remoteAddr
  | none => true

def recorder (station : Station) : Checker Scene := fun tx scene =>
  let scene := scene.register station tx
  let entry : Record := {
    connection := scene.numberOf tx.shared.id
    station
    transaction := tx
    isPeer := scene.isPeer tx }
  Checker.pass tx { scene with records := entry :: scene.records }

def inOffice (checker : Checker Office) : Checker Scene :=
  checker.onPart Scene.office fun office scene => { scene with office }

end Scene

/-- The rules of each stage, a list of rules for each checker. -/
structure Policy where
  connection : List (List Rule) := []
  helo : List (List Rule) := []
  sender : List (List Rule) := []
  recipient : List (List Rule) := []
  data : List (List Rule) := []
  handler : List (List Rule) := []
  close : List (List Rule) := []

/-- The checkers of a stage: the recorder, and those that rules make. -/
def checkersOf (resolver : Resolver) (stage : Stage) (rules : List (List Rule)) :
    List (Checker Scene) :=
  Scene.recorder (.stage stage) :: rules.map fun rules =>
    Scene.inOffice (Rule.checker resolver {} rules)

def Policy.pipelines (resolver : Resolver) (policy : Policy) : Pipelines Scene where
  connection := checkersOf resolver .connection policy.connection
  helo := checkersOf resolver .helo policy.helo
  sender := checkersOf resolver .sender policy.sender
  recipient :=
    (fun candidate => Scene.recorder (.stage (.recipient candidate))) ::
      policy.recipient.map fun rules => fun candidate =>
        Scene.inOffice (Rule.checker resolver { candidate := some candidate } rules)
  data := checkersOf resolver .data policy.data
  handlers := checkersOf resolver .handler policy.handler
  close := checkersOf resolver .close policy.close

inductive Authority
  | none
  | users (users : Users)
  | rules (rules : List Rule)

def Authority.authenticator? (resolver : Resolver) : Authority → Option (Authenticator Scene)
  | .none => Option.none
  | .users table => some table.authenticator
  | .rules list => some fun username password tx scene =>
      let occasion : Occasion := { username := some username, password := some password }
      let recorded := Scene.recorder (.auth username password) tx scene
      Scene.inOffice (Rule.checker resolver occasion list) recorded.transaction recorded.world

end MailIntake.Trial
