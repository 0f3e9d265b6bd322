/-!
Running and shutting down.  Every connection that is being served is an activity.  A shutdown takes
three steps, between which other things may happen: the flag goes up, no activity can begin any
more, and listeners are told to stop.  Waiting for the end is only for those who have seen the flag.
-/
namespace MailIntake

/-- How far a server's life has come. -/
structure Lifecycle where
  /-- A shutdown has begun. -/
  shuttingDown : Bool := false
  /-- Activities can begin. -/
  admitting : Bool := true
  /-- Listeners have been told to stop. -/
  stopped : Bool := false
  /-- How many activities have begun and not ended. -/
  activities : Nat := 0
deriving DecidableEq, Repr

/-- What becomes of waiting for the end. -/
inductive WaitOutcome
  /-- No shutdown has begun. -/
  | notShuttingDown
  /-- Activities go on. -/
  | pending
  | done
deriving DecidableEq, Repr

namespace Lifecycle

/-- Raises the flag; true if it was down. -/
def raiseFlag (l : Lifecycle) : Bool × Lifecycle :=
  (!l.shuttingDown, { l with shuttingDown := true })

/-- Lets no activity begin any more. -/
def stopAdmitting (l : Lifecycle) : Lifecycle :=
  { l with admitting := false }

/-- Tells listeners to stop. -/
def publishStop (l : Lifecycle) : Lifecycle :=
  { l with stopped := true }

/-- Begins a shutdown; true for the call that does, and later calls change nothing. -/
def initiateShutdown (l : Lifecycle) : Bool × Lifecycle :=
  match l.raiseFlag with
  | (true, l) => (true, l.stopAdmitting.publishStop)
  | (false, l) => (false, l)

/-- Begins an activity, unless none can begin any more. -/
def beginActivity? (l : Lifecycle) : Option Lifecycle :=
  if l.admitting then some { l with activities := l.activities + 1 } else none

def endActivity (l : Lifecycle) : Lifecycle :=
  { l with activities := l.activities - 1 }

/-- No activity goes on and none can begin. -/
def isFinished (l : Lifecycle) : Bool :=
  !l.admitting && l.activities == 0

/-- What waiting comes to at this moment. -/
def wait (l : Lifecycle) : WaitOutcome :=
  if ¬ l.shuttingDown then .notShuttingDown
  else if l.isFinished then .done
  else .pending

end Lifecycle
end MailIntake
