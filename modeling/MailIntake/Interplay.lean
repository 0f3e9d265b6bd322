import MailIntake.Lifecycle
/-!
Many callers and the life of one server.  Each call is a task that takes one step at a time, and
between two steps of one task any others can be taken.
-/
namespace MailIntake

inductive ShutdownCall
  | called
  /-- It has raised the flag. -/
  | raised
  /-- It has let no activity begin any more. -/
  | closed
  /-- It has ended, true for the call that has told listeners to stop. -/
  | returned (first : Bool)
deriving DecidableEq, Repr

/-- How far a call that waits for the end has come. -/
inductive WaitCall
  | called
  /-- No shutdown had begun. -/
  | refused
  /-- It queues for the place of the one that watches the activities. -/
  | queued
  | watching
  | done
  /-- The caller does not want to wait any longer. -/
  | abandoned
deriving DecidableEq, Repr

/-- How far a listener has come, and how many connections it has had served. -/
inductive ListenCall
  | called
  | accepting (served : Nat)
  | closed (served : Nat)
deriving DecidableEq, Repr

/-- How far an activity has come. -/
inductive ActivityCall
  | called
  /-- None can begin any more. -/
  | refused
  | alive
  | ended
deriving DecidableEq, Repr

/-- A call and how far it has come. -/
inductive Task
  | shutdown (call : ShutdownCall)
  | wait (call : WaitCall)
  | listen (call : ListenCall)
  | activity (call : ActivityCall)
  /-- Whether a shutdown has begun, with the answer. -/
  | query (answer : Option Bool)
deriving DecidableEq, Repr

/-- What can be called. -/
inductive Request
  | shutdown
  | wait
  | listen
  | activity
  | query
deriving DecidableEq, Repr

/-- A call that has not taken a step. -/
def Request.task : Request → Task
  | .shutdown => .shutdown .called
  | .wait => .wait .called
  | .listen => .listen .called
  | .activity => .activity .called
  | .query => .query none

def ShutdownCall.proceed (l : Lifecycle) : ShutdownCall → ShutdownCall × Lifecycle
  | .called =>
      match l.raiseFlag with
      | (true, l) => (.raised, l)
      | (false, l) => (.returned false, l)
  | .raised => (.closed, l.stopAdmitting)
  | .closed => (.returned true, l.publishStop)
  | .returned first => (.returned first, l)

/-- The next step of a call that waits, where the place of the one that watches is free or not. -/
def WaitCall.proceed (free : Bool) (l : Lifecycle) : WaitCall → WaitCall
  | .called => if l.shuttingDown then .queued else .refused
  | .queued => if free then .watching else .queued
  | .watching => if l.isFinished then .done else .watching
  | .refused => .refused
  | .done => .done
  | .abandoned => .abandoned

/-- The next step of a listener when no connection arrives. -/
def ListenCall.proceed (l : Lifecycle) : ListenCall → ListenCall
  | .called => if l.shuttingDown then .closed 0 else .accepting 0
  | .accepting served => if l.stopped then .closed served else .accepting served
  | .closed served => .closed served

/-- The next step of an activity. -/
def ActivityCall.proceed (l : Lifecycle) : ActivityCall → ActivityCall × Lifecycle
  | .called =>
      match l.beginActivity? with
      | some l => (.alive, l)
      | none => (.refused, l)
  | .alive => (.ended, l.endActivity)
  | .refused => (.refused, l)
  | .ended => (.ended, l)

/-- The next step of a task. -/
def Task.proceed (free : Bool) (l : Lifecycle) : Task → Task × Lifecycle
  | .shutdown call =>
      let (call, l) := call.proceed l
      (.shutdown call, l)
  | .wait call => (.wait (call.proceed free l), l)
  | .listen call => (.listen (call.proceed l), l)
  | .activity call =>
      let (call, l) := call.proceed l
      (.activity call, l)
  | .query none => (.query (some l.shuttingDown), l)
  | .query (some answer) => (.query (some answer), l)

/-- What is left of a task whose caller gives up.  Only waiting and listening can be given up. -/
def Task.abandon : Task → Task
  | .wait .called | .wait .queued | .wait .watching => .wait .abandoned
  | .listen .called => .listen (.closed 0)
  | .listen (.accepting served) => .listen (.closed served)
  | task => task

/-- The life of a server and the calls that were made, in this order. -/
structure Interplay where
  lifecycle : Lifecycle := {}
  tasks : List Task := []
deriving DecidableEq, Repr

namespace Interplay

/-- What can happen next. -/
inductive Action
  | call (request : Request)
  /-- The task at a place takes a step. -/
  | proceed (place : Nat)
  /-- A connection arrives at the listener at a place. -/
  | accept (place : Nat)
  /-- The caller of the task at a place gives up. -/
  | abandon (place : Nat)
deriving DecidableEq, Repr

/-- Whether nobody watches the activities. -/
def isFree (s : Interplay) : Bool :=
  s.tasks.all fun task => task ≠ .wait .watching

def call (s : Interplay) (request : Request) : Interplay :=
  { s with tasks := s.tasks ++ [request.task] }

/-- The task at a place takes a step. -/
def proceed (s : Interplay) (place : Nat) : Interplay :=
  match s.tasks[place]? with
  | none => s
  | some task =>
      let (task, lifecycle) := task.proceed s.isFree s.lifecycle
      { lifecycle, tasks := s.tasks.set place task }

/-- A connection arrives at the listener at a place.  It is served by an activity of its own, or
dropped if none can begin any more. -/
def accept (s : Interplay) (place : Nat) : Interplay :=
  match s.tasks[place]? with
  | some (.listen (.accepting served)) =>
      match s.lifecycle.beginActivity? with
      | none => s
      | some lifecycle =>
          let tasks := s.tasks.set place (.listen (.accepting (served + 1)))
          { lifecycle, tasks := tasks ++ [.activity .alive] }
  | _ => s

/-- The caller of the task at a place gives up. -/
def abandon (s : Interplay) (place : Nat) : Interplay :=
  match s.tasks[place]? with
  | none => s
  | some task => { s with tasks := s.tasks.set place task.abandon }

def step (s : Interplay) : Action → Interplay
  | .call request => s.call request
  | .proceed place => s.proceed place
  | .accept place => s.accept place
  | .abandon place => s.abandon place

/-- What actions do one after another. -/
def run (s : Interplay) (actions : List Action) : Interplay :=
  actions.foldl step s

end Interplay
end MailIntake
