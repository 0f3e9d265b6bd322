import MailIntake.Interplay
import MailIntake.Proofs.Server.Change
/-!
Shutting down while anything else goes on.  What one step can do is said once (`step_actionStep`),
for the task that takes it and for the life of the server; what holds in every state and from some
state on follows from that (`run_shutdown_final`).
-/
namespace MailIntake

namespace Lifecycle

variable {l later : Lifecycle}

theorem beginActivity?_of_admitting (hadmitting : l.admitting = true) :
    l.beginActivity? = some { l with activities := l.activities + 1 } := by
  rw [beginActivity?, if_pos hadmitting]

theorem beginActivity?_eq_none (hadmitting : l.admitting = false) : l.beginActivity? = none := by
  rw [beginActivity?, hadmitting]
  rfl

/-- What stays as it is once it has come about. -/
structure Onward (l later : Lifecycle) : Prop where
  shuttingDown : l.shuttingDown = true → later.shuttingDown = true
  admitting : l.admitting = false → later.admitting = false
  stopped : l.stopped = true → later.stopped = true
  isFinished : l.isFinished = true → later.isFinished = true

theorem Onward.rfl : Onward l l :=
  ⟨id, id, id, id⟩

theorem Onward.trans {last : Lifecycle} (hfirst : Onward l later) (hsecond : Onward later last) :
    Onward l last where
  shuttingDown h := hsecond.shuttingDown (hfirst.shuttingDown h)
  admitting h := hsecond.admitting (hfirst.admitting h)
  stopped h := hsecond.stopped (hfirst.stopped h)
  isFinished h := hsecond.isFinished (hfirst.isFinished h)

theorem isFinished_iff : l.isFinished = true ↔ l.admitting = false ∧ l.activities = 0 := by
  simp [isFinished]

theorem onward_begun (hadmitting : l.admitting = true) :
    Onward l { l with activities := l.activities + 1 } := by
  refine ⟨id, id, id, fun hfinished => ?_⟩
  rw [isFinished_iff, hadmitting] at hfinished
  cases hfinished.1

end Lifecycle

/-- What can become of a task, and what the life of the server is then. -/
inductive Task.Moved (free : Bool) (l : Lifecycle) : Task → Task → Lifecycle → Prop
  | stays (task : Task) : Moved free l task task l
  | raised (hflag : l.shuttingDown = false) :
      Moved free l (.shutdown .called) (.shutdown .raised) { l with shuttingDown := true }
  | late (hflag : l.shuttingDown = true) :
      Moved free l (.shutdown .called) (.shutdown (.returned false)) l
  | closed : Moved free l (.shutdown .raised) (.shutdown .closed) l.stopAdmitting
  | published :
      Moved free l (.shutdown .closed) (.shutdown (.returned true)) l.publishStop
  | refused (hflag : l.shuttingDown = false) :
      Moved free l (.wait .called) (.wait .refused) l
  | queued (hflag : l.shuttingDown = true) : Moved free l (.wait .called) (.wait .queued) l
  | watching (hfree : free = true) : Moved free l (.wait .queued) (.wait .watching) l
  | done (hfinished : l.isFinished = true) : Moved free l (.wait .watching) (.wait .done) l
  | abandoned (call : WaitCall) : Moved free l (.wait call) (.wait .abandoned) l
  | opened (hflag : l.shuttingDown = false) :
      Moved free l (.listen .called) (.listen (.accepting 0)) l
  | shut : Moved free l (.listen .called) (.listen (.closed 0)) l
  | stopped (served : Nat) :
      Moved free l (.listen (.accepting served)) (.listen (.closed served)) l
  | begun (hadmitting : l.admitting = true) :
      Moved free l (.activity .called) (.activity .alive)
        { l with activities := l.activities + 1 }
  | unbegun (hadmitting : l.admitting = false) :
      Moved free l (.activity .called) (.activity .refused) l
  | ended : Moved free l (.activity .alive) (.activity .ended) l.endActivity
  | answered : Moved free l (.query none) (.query (some l.shuttingDown)) l

namespace WaitCall

def IsOpen (call : WaitCall) : Prop :=
  call = .called ∨ call = .queued ∨ call = .watching

/-- Three steps of a call that waits where nobody else watches. -/
def settle (l : Lifecycle) (call : WaitCall) : WaitCall :=
  ((call.proceed true l).proceed true l).proceed true l

/-- By its own steps, a call comes to what waiting comes to at this moment. -/
theorem settle_called (l : Lifecycle) : settle l .called =
    match l.wait with
    | .notShuttingDown => .refused
    | .pending => .watching
    | .done => .done := by
  cases hflag : l.shuttingDown with
  | false => simp [settle, proceed, Lifecycle.wait, hflag]
  | true =>
      cases hfinished : l.isFinished with
      | false => simp [settle, proceed, Lifecycle.wait, hflag, hfinished]
      | true => simp [settle, proceed, Lifecycle.wait, hflag, hfinished]

theorem IsOpen.settle {l : Lifecycle} {call : WaitCall} (hopen : call.IsOpen)
    (hflag : l.shuttingDown = true) (hfinished : l.isFinished = true) :
    call.settle l = .done := by
  rcases hopen with rfl | rfl | rfl
  · simp [WaitCall.settle, proceed, hflag, hfinished]
  · simp [WaitCall.settle, proceed, hfinished]
  · simp [WaitCall.settle, proceed, hfinished]

end WaitCall

namespace Task

theorem proceed_moved (free : Bool) (l : Lifecycle) (task : Task) :
    Moved free l task (task.proceed free l).1 (task.proceed free l).2 := by
  cases task with
  | shutdown call =>
      cases call with
      | called =>
          rw [proceed, ShutdownCall.proceed, Lifecycle.raiseFlag]
          cases hflag : l.shuttingDown with
          | true =>
              have hsame : { l with shuttingDown := true } = l := by rw [← hflag]
              rw [hsame]
              exact .late hflag
          | false => exact .raised hflag
      | raised => exact .closed
      | closed => exact .published
      | returned => exact .stays _
  | wait call =>
      cases call with
      | called =>
          rw [proceed, WaitCall.proceed]
          split
          · next hflag => exact .queued hflag
          · next hflag => exact .refused (by simpa using hflag)
      | queued =>
          rw [proceed, WaitCall.proceed]
          split
          · next hfree => exact .watching hfree
          · exact .stays _
      | watching =>
          rw [proceed, WaitCall.proceed]
          split
          · next hfinished => exact .done hfinished
          · exact .stays _
      | refused | done | abandoned => exact .stays _
  | listen call =>
      cases call with
      | called =>
          rw [proceed, ListenCall.proceed]
          split
          · exact .shut
          · next hflag => exact .opened (by simpa using hflag)
      | accepting served =>
          rw [proceed, ListenCall.proceed]
          split
          · exact .stopped served
          · exact .stays _
      | closed => exact .stays _
  | activity call =>
      cases call with
      | called =>
          cases hadmitting : l.admitting with
          | true =>
              rw [proceed, ActivityCall.proceed, Lifecycle.beginActivity?_of_admitting hadmitting]
              exact .begun hadmitting
          | false =>
              rw [proceed, ActivityCall.proceed, Lifecycle.beginActivity?_eq_none hadmitting]
              exact .unbegun hadmitting
      | alive => exact .ended
      | refused | ended => exact .stays _
  | query answer =>
      cases answer with
      | none => exact .answered
      | some answer => exact .stays _

theorem abandon_moved (free : Bool) (l : Lifecycle) (task : Task) :
    Moved free l task task.abandon l := by
  rw [abandon.eq_def]
  split
  · exact .abandoned _
  · exact .abandoned _
  · exact .abandoned _
  · exact .shut
  · exact .stopped _
  · exact .stays _

theorem Moved.onward {free : Bool} {l later : Lifecycle} {task after : Task}
    (hmoved : Moved free l task after later) : l.Onward later := by
  cases hmoved with
  | raised => exact ⟨fun _ => rfl, id, id, id⟩
  | closed =>
      refine ⟨id, fun _ => rfl, id, fun hfinished => ?_⟩
      rw [Lifecycle.isFinished_iff] at hfinished ⊢
      exact ⟨rfl, hfinished.2⟩
  | published => exact ⟨id, id, fun _ => rfl, id⟩
  | begun hadmitting => exact Lifecycle.onward_begun hadmitting
  | ended =>
      refine ⟨id, id, id, fun hfinished => ?_⟩
      rw [Lifecycle.isFinished_iff] at hfinished ⊢
      refine ⟨hfinished.1, ?_⟩
      rw [Lifecycle.endActivity, hfinished.2]
  | stays | late | refused | queued | watching | done | abandoned | opened | shut | stopped
  | unbegun | answered => exact .rfl

/-- An activity that goes on. -/
def isAlive (task : Task) : Bool :=
  task = .activity .alive

/-- An activity that goes on or has gone on. -/
def hasBegun (task : Task) : Bool :=
  task = .activity .alive ∨ task = .activity .ended

/-- A call that has begun the shutdown. -/
def isFirst (task : Task) : Bool :=
  task = .shutdown .raised ∨ task = .shutdown .closed ∨ task = .shutdown (.returned true)

def isWatching (task : Task) : Bool :=
  task = .wait .watching

/-- How many connections a listener has had served. -/
def served : Task → Nat
  | .listen (.accepting served) | .listen (.closed served) => served
  | _ => 0

section Moved

variable {free : Bool} {l later : Lifecycle} {task after : Task}

theorem Moved.activities (hmoved : Moved free l task after later)
    (halive : task.isAlive → 0 < l.activities) :
    later.activities + (if task.isAlive then 1 else 0) =
      l.activities + if after.isAlive then 1 else 0 := by
  cases hmoved with
  | ended => exact Nat.sub_add_cancel (halive rfl)
  | stays | raised | late | closed | published | refused | queued | watching | done | abandoned
  | opened | shut | stopped | begun | unbegun | answered => rfl

theorem Moved.firsts (hmoved : Moved free l task after later) :
    (if l.shuttingDown then 1 else 0) + (if after.isFirst then 1 else 0) =
      (if later.shuttingDown then 1 else 0) + if task.isFirst then 1 else 0 := by
  cases hmoved with
  | raised hflag =>
      rw [hflag]
      rfl
  | stays | late | closed | published | refused | queued | watching | done | abandoned | opened
  | shut | stopped | begun | unbegun | ended | answered => rfl

/-- Only a call that has raised the flag lets no activity begin any more. -/
theorem Moved.admitting (hmoved : Moved free l task after later)
    (hfirst : task.isFirst → l.shuttingDown = true)
    (hbefore : l.admitting = false → l.shuttingDown = true)
    (hadmitting : later.admitting = false) : later.shuttingDown = true := by
  cases hmoved with
  | raised => rfl
  | closed => exact hfirst rfl
  | stays | late | published | refused | queued | watching | done | abandoned | opened | shut
  | stopped | begun | unbegun | ended | answered => exact hbefore hadmitting

/-- Waiting ends when nothing is left to wait for. -/
theorem Moved.done_of_eq (hmoved : Moved free l task after later) (hdone : after = .wait .done) :
    task = .wait .done ∨ l.isFinished = true := by
  cases hmoved with
  | stays => exact .inl hdone
  | done hfinished => exact .inr hfinished
  | raised | late | closed | published | refused | queued | watching | abandoned | opened | shut
  | stopped | begun | unbegun | ended | answered => cases hdone

/-- The place of the one that watches is taken when it is free. -/
theorem Moved.isWatching (hmoved : Moved free l task after later)
    (hwatching : after.isWatching = true) : task.isWatching = true ∨ free = true := by
  cases hmoved with
  | stays => exact .inl hwatching
  | watching hfree => exact .inr hfree
  | raised | late | closed | published | refused | queued | done | abandoned | opened | shut
  | stopped | begun | unbegun | ended | answered => cases hwatching

/-- When none can begin any more, no activity begins. -/
theorem Moved.hasBegun (hmoved : Moved free l task after later) (hadmitting : l.admitting = false) :
    after.hasBegun = task.hasBegun := by
  cases hmoved with
  | begun hopen =>
      rw [hadmitting] at hopen
      cases hopen
  | stays | raised | late | closed | published | refused | queued | watching | done | abandoned
  | opened | shut | stopped | unbegun | ended | answered => rfl

theorem Moved.served (hmoved : Moved free l task after later) : after.served = task.served := by
  cases hmoved with
  | stays | raised | late | closed | published | refused | queued | watching | done | abandoned
  | opened | shut | stopped | begun | unbegun | ended | answered => rfl

end Moved

end Task

section Fresh

variable (request : Request)

theorem isAlive_task : request.task.isAlive = false := by
  cases request with
  | shutdown | wait | listen | activity | query => rfl

theorem hasBegun_task : request.task.hasBegun = false := by
  cases request with
  | shutdown | wait | listen | activity | query => rfl

theorem isFirst_task : request.task.isFirst = false := by
  cases request with
  | shutdown | wait | listen | activity | query => rfl

theorem isWatching_task : request.task.isWatching = false := by
  cases request with
  | shutdown | wait | listen | activity | query => rfl

theorem served_task : request.task.served = 0 := by
  cases request with
  | shutdown | wait | listen | activity | query => rfl

end Fresh

namespace Interplay

/-- What can happen in one step. -/
inductive ActionStep (s : Interplay) : Interplay → Prop
  | nothing : ActionStep s s
  | called (request : Request) : ActionStep s (s.call request)
  | moved (place : Nat) (task after : Task) (lifecycle : Lifecycle)
      (hplace : s.tasks[place]? = some task)
      (hmoved : Task.Moved s.isFree s.lifecycle task after lifecycle) :
      ActionStep s ⟨lifecycle, s.tasks.set place after⟩
  | accepted (place served : Nat) (hplace : s.tasks[place]? = some (.listen (.accepting served)))
      (hadmitting : s.lifecycle.admitting = true) :
      ActionStep s ⟨{ s.lifecycle with activities := s.lifecycle.activities + 1 },
        s.tasks.set place (.listen (.accepting (served + 1))) ++ [.activity .alive]⟩

section Steps

variable (s : Interplay) (place : Nat)

theorem proceed_actionStep : ActionStep s (s.proceed place) := by
  rw [proceed]
  split
  · exact .nothing
  · next task hplace =>
      exact .moved place task _ _ hplace (task.proceed_moved s.isFree s.lifecycle)

theorem accept_actionStep : ActionStep s (s.accept place) := by
  rw [accept]
  split
  · next served hplace =>
      cases hadmitting : s.lifecycle.admitting with
      | true =>
          rw [Lifecycle.beginActivity?_of_admitting hadmitting]
          exact .accepted place served hplace hadmitting
      | false =>
          rw [Lifecycle.beginActivity?_eq_none hadmitting]
          exact .nothing
  · exact .nothing

theorem abandon_actionStep : ActionStep s (s.abandon place) := by
  rw [abandon]
  split
  · exact .nothing
  · next task hplace =>
      exact .moved place task _ _ hplace (task.abandon_moved s.isFree s.lifecycle)

/-- An action does one of the listed things. -/
theorem step_actionStep (action : Action) : ActionStep s (s.step action) := by
  cases action with
  | call request => exact .called request
  | proceed place => exact proceed_actionStep s place
  | accept place => exact accept_actionStep s place
  | abandon place => exact abandon_actionStep s place

end Steps

variable {s after : Interplay}

theorem ActionStep.onward (haction : ActionStep s after) : s.lifecycle.Onward after.lifecycle := by
  cases haction with
  | nothing => exact .rfl
  | called request => exact .rfl
  | moved place task next lifecycle hplace hmoved => exact hmoved.onward
  | accepted place served hplace hadmitting => exact Lifecycle.onward_begun hadmitting

/-- How many activities go on. -/
def alive (s : Interplay) : Nat :=
  s.tasks.countP Task.isAlive

def begun (s : Interplay) : Nat :=
  s.tasks.countP Task.hasBegun

def firsts (s : Interplay) : Nat :=
  s.tasks.countP Task.isFirst

/-- How many connections the listener at a place has had served, if there is one. -/
def servedAt (s : Interplay) (place : Nat) : Nat :=
  (s.tasks[place]?.map Task.served).getD 0

def watchers (s : Interplay) : Nat :=
  s.tasks.countP Task.isWatching

theorem isFree_iff : s.isFree = true ↔ s.watchers = 0 := by
  rw [isFree, List.all_eq_true, watchers, List.countP_eq_zero]
  simp [Task.isWatching]

/-- What holds in every state. -/
structure Sound (s : Interplay) : Prop where
  /-- What goes on is counted. -/
  activities : s.lifecycle.activities = s.alive
  /-- The flag is up if a call has begun the shutdown, and no two calls have. -/
  firsts : s.firsts = if s.lifecycle.shuttingDown then 1 else 0
  /-- Activities can begin as long as the flag is down. -/
  admitting : s.lifecycle.admitting = false → s.lifecycle.shuttingDown = true
  /-- Waiting ends when no activity goes on and none can begin. -/
  done : .wait .done ∈ s.tasks → s.lifecycle.isFinished = true
  /-- One call at most watches the activities. -/
  watchers : s.watchers ≤ 1

namespace Sound

theorem called (hsound : Sound s) (request : Request) : Sound (s.call request) := by
  have hcount : ∀ p : Task → Bool, p request.task = false →
      (s.tasks ++ [request.task]).countP p = s.tasks.countP p := by
    intro p hnew
    rw [List.countP_append, List.countP_singleton, hnew]
    rfl
  refine ⟨?_, ?_, hsound.admitting, ?_, ?_⟩
  · rw [alive, call, hcount _ (isAlive_task request)]
    exact hsound.activities
  · rw [Interplay.firsts, call, hcount _ (isFirst_task request)]
    exact hsound.firsts
  · intro hmem
    rcases List.mem_append.mp hmem with hmem | hmem
    · exact hsound.done hmem
    · cases request with
      | shutdown | wait | listen | activity | query => simp [Request.task] at hmem
  · rw [Interplay.watchers, call, hcount _ (isWatching_task request)]
    exact hsound.watchers

theorem accepted (hsound : Sound s) {place served : Nat}
    (hplace : s.tasks[place]? = some (.listen (.accepting served)))
    (hadmitting : s.lifecycle.admitting = true) :
    Sound ⟨{ s.lifecycle with activities := s.lifecycle.activities + 1 },
      s.tasks.set place (.listen (.accepting (served + 1))) ++ [.activity .alive]⟩ := by
  have hcount : ∀ p : Task → Bool, p (.listen (.accepting served)) = false →
      p (.listen (.accepting (served + 1))) = false →
        (s.tasks.set place (.listen (.accepting (served + 1))) ++ [Task.activity .alive]).countP p =
          s.tasks.countP p + if p (Task.activity .alive) then 1 else 0 := by
    intro p hbefore hafter
    have hset := countP_set_add p hplace (.listen (.accepting (served + 1)))
    rw [hbefore, hafter] at hset
    rw [List.countP_append, List.countP_singleton]
    exact congrArg (· + _) hset
  refine ⟨?_, ?_, hsound.admitting, ?_, ?_⟩
  · rw [alive, hcount _ rfl rfl]
    exact congrArg (· + 1) hsound.activities
  · rw [Interplay.firsts, hcount _ rfl rfl]
    exact hsound.firsts
  · intro hmem
    apply (Lifecycle.onward_begun hadmitting).isFinished
    rcases List.mem_append.mp hmem with hmem | hmem
    · rcases List.mem_or_eq_of_mem_set hmem with hmem | hdone
      · exact hsound.done hmem
      · cases hdone
    · simp at hmem
  · rw [Interplay.watchers, hcount _ rfl rfl]
    exact hsound.watchers

theorem moved (hsound : Sound s) {place : Nat} {task next : Task} {lifecycle : Lifecycle}
    (hplace : s.tasks[place]? = some task)
    (hmoved : Task.Moved s.isFree s.lifecycle task next lifecycle) :
    Sound ⟨lifecycle, s.tasks.set place next⟩ := by
  have hcount := fun p : Task → Bool => countP_set_add p hplace next
  have hpos : ∀ p : Task → Bool, p task = true → 0 < s.tasks.countP p := fun p hp =>
    List.countP_pos_iff.mpr ⟨task, List.mem_of_getElem? hplace, hp⟩
  refine ⟨?_, ?_, ?_, ?_, ?_⟩
  · have hmove := hmoved.activities fun halive => by
      rw [hsound.activities]
      exact hpos _ halive
    have hset := hcount Task.isAlive
    have hbefore := hsound.activities
    rw [alive] at hbefore ⊢
    dsimp only
    omega
  · have hmove := hmoved.firsts
    have hset := hcount Task.isFirst
    have hbefore := hsound.firsts
    rw [Interplay.firsts] at hbefore ⊢
    dsimp only
    omega
  · refine hmoved.admitting (fun hfirst => ?_) hsound.admitting
    have hbefore := hsound.firsts
    have hone := hpos _ hfirst
    rw [Interplay.firsts] at hbefore
    cases hflag : s.lifecycle.shuttingDown with
    | true => rfl
    | false =>
        rw [hflag, if_neg Bool.false_ne_true] at hbefore
        omega
  · intro hmem
    apply hmoved.onward.isFinished
    rcases List.mem_or_eq_of_mem_set hmem with hmem | hdone
    · exact hsound.done hmem
    · rcases hmoved.done_of_eq hdone.symm with htask | hfinished
      · exact hsound.done (htask ▸ List.mem_of_getElem? hplace)
      · exact hfinished
  · have hset := hcount Task.isWatching
    have hbefore := hsound.watchers
    rw [Interplay.watchers] at hbefore ⊢
    dsimp only
    by_cases hwatching : next.isWatching
    · rcases hmoved.isWatching hwatching with htask | hfree
      · rw [hwatching, htask] at hset
        omega
      · have hnone := isFree_iff.mp hfree
        rw [Interplay.watchers] at hnone
        rw [hwatching, hnone] at hset
        simp only [if_true] at hset
        omega
    · rw [if_neg hwatching] at hset
      omega

theorem step (hsound : Sound s) (action : Action) : Sound (s.step action) := by
  have haction := step_actionStep s action
  generalize s.step action = after at haction
  cases haction with
  | nothing => exact hsound
  | called request => exact hsound.called request
  | moved place task next lifecycle hplace hmoved => exact hsound.moved hplace hmoved
  | accepted place served hplace hadmitting => exact hsound.accepted hplace hadmitting

end Sound

/-- What can become of the task at a place, if there is one. -/
inductive Next (s : Interplay) : Option Task → Option Task → Prop
  | same (task? : Option Task) : Next s task? task?
  | called (request : Request) : Next s none (some request.task)
  | spawned (hadmitting : s.lifecycle.admitting = true) : Next s none (some (.activity .alive))
  | moved (task after : Task) (lifecycle : Lifecycle)
      (hmoved : Task.Moved s.isFree s.lifecycle task after lifecycle) :
      Next s (some task) (some after)
  | accepted (served : Nat) (hadmitting : s.lifecycle.admitting = true) :
      Next s (some (.listen (.accepting served))) (some (.listen (.accepting (served + 1))))

theorem getElem?_concat_cases {A : Type} (items : List A) (item : A) (place : Nat) :
    (items ++ [item])[place]? = items[place]? ∨
      items[place]? = none ∧ (items ++ [item])[place]? = some item := by
  rcases Nat.lt_trichotomy place items.length with hlt | heq | hgt
  · exact .inl (List.getElem?_append_left hlt)
  · right
    rw [heq]
    simp
  · left
    have hbehind : (items ++ [item]).length ≤ place := by
      rw [List.length_append]
      exact hgt
    rw [List.getElem?_eq_none hbehind, List.getElem?_eq_none (Nat.le_of_lt hgt)]

theorem ActionStep.next (haction : ActionStep s after) (place : Nat) :
    Next s s.tasks[place]? after.tasks[place]? := by
  cases haction with
  | nothing => exact .same _
  | called request =>
      rcases getElem?_concat_cases s.tasks request.task place with hsame | ⟨hnone, hnew⟩
      · rw [call, hsame]
        exact .same _
      · rw [call, hnew, hnone]
        exact .called request
  | moved other task next lifecycle hother hmoved =>
      by_cases heq : other = place
      · obtain ⟨hlt, -⟩ := List.getElem?_eq_some_iff.mp hother
        rw [← heq, hother, List.getElem?_set_self hlt]
        exact .moved task next lifecycle hmoved
      · rw [List.getElem?_set_ne heq]
        exact .same _
  | accepted other served hother hadmitting =>
      obtain ⟨hlt, -⟩ := List.getElem?_eq_some_iff.mp hother
      rcases getElem?_concat_cases (s.tasks.set other (.listen (.accepting (served + 1))))
        (.activity .alive) place with hsame | ⟨hnone, hnew⟩
      · rw [hsame]
        by_cases heq : other = place
        · rw [← heq, hother, List.getElem?_set_self hlt]
          exact .accepted served hadmitting
        · rw [List.getElem?_set_ne heq]
          exact .same _
      · have hempty : s.tasks[place]? = none := by
          rw [List.getElem?_eq_none_iff, List.length_set] at hnone
          exact List.getElem?_eq_none hnone
        rw [hnew, hempty]
        exact .spawned hadmitting

/-- When none can begin any more, no activity begins and no connection is served. -/
theorem ActionStep.served (haction : ActionStep s after)
    (hadmitting : s.lifecycle.admitting = false)
    (place : Nat) : after.servedAt place = s.servedAt place := by
  have hnext := haction.next place
  rw [servedAt, servedAt]
  generalize after.tasks[place]? = later at hnext
  generalize s.tasks[place]? = before at hnext
  cases hnext with
  | same => rfl
  | called request => exact served_task request
  | spawned => rfl
  | moved task next lifecycle hmoved =>
      rw [Option.map_some, Option.map_some, hmoved.served]
  | accepted served hopen =>
      rw [hadmitting] at hopen
      cases hopen

theorem ActionStep.begun (haction : ActionStep s after)
    (hadmitting : s.lifecycle.admitting = false) :
    after.begun = s.begun := by
  cases haction with
  | nothing => rfl
  | called request =>
      rw [Interplay.begun, call, List.countP_append, List.countP_singleton, hasBegun_task]
      rfl
  | moved place task next lifecycle hplace hmoved =>
      have hset := countP_set_add Task.hasBegun hplace next
      rw [hmoved.hasBegun hadmitting] at hset
      exact Nat.add_right_cancel hset
  | accepted place served hplace hopen =>
      rw [hadmitting] at hopen
      cases hopen

/-- No connection has been served by the listener at a place, and none will be. -/
def Idle (s : Interplay) (place : Nat) : Prop :=
  ∀ task ∈ s.tasks[place]?, task.served = 0 ∧ ∀ served, task ≠ .listen (.accepting served)

/-- When the flag is up, a listener that begins does not serve any connection. -/
theorem ActionStep.idle (haction : ActionStep s after) (hflag : s.lifecycle.shuttingDown = true)
    {place : Nat} (hidle : Idle s place) : Idle after place := by
  have hnext := haction.next place
  rw [Idle] at hidle ⊢
  generalize after.tasks[place]? = later at hnext
  generalize s.tasks[place]? = before at hnext hidle
  cases hnext with
  | same => exact hidle
  | called request =>
      rintro task hmem
      cases hmem
      refine ⟨served_task request, fun served hopen => ?_⟩
      cases request with
      | shutdown | wait | listen | activity | query => cases hopen
  | spawned =>
      rintro task hmem
      cases hmem
      exact ⟨rfl, fun _ h => nomatch h⟩
  | moved task next lifecycle hmoved =>
      rintro other hmem
      cases hmem
      obtain ⟨hserved, hshut⟩ := hidle task rfl
      refine ⟨hmoved.served.trans hserved, ?_⟩
      intro served hopen
      cases hmoved with
      | stays => exact hshut served hopen
      | opened hdown =>
          rw [hflag] at hdown
          cases hdown
      | raised | late | closed | published | refused | queued | watching | done | abandoned | shut
      | stopped | begun | unbegun | ended | answered => cases hopen
  | accepted served => exact absurd rfl ((hidle _ rfl).2 served)

section Calls

variable {place : Nat}

theorem getElem?_set {task : Task} (hplace : s.tasks[place]? = some task) (next : Task) :
    (s.tasks.set place next)[place]? = some next := by
  obtain ⟨hlt, -⟩ := List.getElem?_eq_some_iff.mp hplace
  exact List.getElem?_set_self hlt

theorem proceed_shutdown {call : ShutdownCall} (hplace : s.tasks[place]? = some (.shutdown call)) :
    s.proceed place = ⟨(call.proceed s.lifecycle).2,
      s.tasks.set place (.shutdown (call.proceed s.lifecycle).1)⟩ := by
  rw [proceed, hplace]
  rfl

theorem proceed_wait {call : WaitCall} (hplace : s.tasks[place]? = some (.wait call)) :
    s.proceed place = ⟨s.lifecycle,
      s.tasks.set place (.wait (call.proceed s.isFree s.lifecycle))⟩ := by
  rw [proceed, hplace]
  rfl

/-- The steps of a call for a shutdown, taken in a row, begin the shutdown of a server. -/
theorem shutdown_thrice (hplace : s.tasks[place]? = some (.shutdown .called)) :
    ((s.proceed place).proceed place).proceed place =
      ⟨s.lifecycle.initiateShutdown.2,
        s.tasks.set place (.shutdown (.returned s.lifecycle.initiateShutdown.1))⟩ := by
  have hagain : ∀ (l : Lifecycle) (call : ShutdownCall),
      (⟨l, s.tasks.set place (.shutdown call)⟩ : Interplay).proceed place =
        ⟨(call.proceed l).2, s.tasks.set place (.shutdown (call.proceed l).1)⟩ := by
    intro l call
    rw [proceed_shutdown (getElem?_set hplace _), List.set_set]
  rw [proceed_shutdown hplace, hagain, hagain, Lifecycle.initiateShutdown,
    ShutdownCall.proceed.eq_def s.lifecycle, Lifecycle.raiseFlag]
  cases s.lifecycle.shuttingDown with
  | true => rfl
  | false => rfl

/-- Nobody watches the activities, except perhaps the call at a place. -/
def FreeFor (s : Interplay) (place : Nat) : Prop :=
  (s.tasks.set place (.wait .called)).countP Task.isWatching = 0

/-- A call that waits where nobody else watches takes its steps without a hindrance. -/
theorem wait_thrice {call : WaitCall} (hplace : s.tasks[place]? = some (.wait call))
    (hfree : s.FreeFor place) :
    ((s.proceed place).proceed place).proceed place =
      { s with tasks := s.tasks.set place (.wait (call.settle s.lifecycle)) } := by
  have hagain : ∀ call : WaitCall,
      (⟨s.lifecycle, s.tasks.set place (.wait call)⟩ : Interplay).proceed place =
        ⟨s.lifecycle, s.tasks.set place (.wait (call.proceed true s.lifecycle))⟩ := by
    intro call
    rw [proceed_wait (getElem?_set hplace _), List.set_set]
    -- Only a call in the queue looks at who watches, and it does not watch itself.
    cases call with
    | queued =>
        have hnone : isFree ⟨s.lifecycle, s.tasks.set place (.wait .queued)⟩ = true := by
          rw [isFree_iff, watchers, ← hfree]
          have hqueued := countP_set_add Task.isWatching hplace (.wait .queued)
          have hcalled := countP_set_add Task.isWatching hplace (.wait .called)
          exact Nat.add_right_cancel (hqueued.trans hcalled.symm)
        rw [hnone]
    | called | refused | watching | done | abandoned => rfl
  have hsame : s = ⟨s.lifecycle, s.tasks.set place (.wait call)⟩ := by
    obtain ⟨hlt, hcall⟩ := List.getElem?_eq_some_iff.mp hplace
    rw [← hcall, List.set_getElem_self]
  rw [WaitCall.settle, ← hagain, ← hagain, ← hagain, ← hsame]

/-- If nobody else watches, a call that waits comes to what waiting comes to at this moment. -/
theorem wait_called (hplace : s.tasks[place]? = some (.wait .called)) (hfree : s.FreeFor place) :
    (((s.proceed place).proceed place).proceed place).tasks[place]? =
      some (.wait (match s.lifecycle.wait with
        | .notShuttingDown => .refused
        | .pending => .watching
        | .done => .done)) := by
  rw [wait_thrice hplace hfree, WaitCall.settle_called]
  exact getElem?_set hplace _

/-- When nothing is left to wait for, no activity goes on, and whoever asks is told so. -/
theorem Sound.over (hsound : Sound s) (hfinished : s.lifecycle.isFinished = true) :
    s.alive = 0 ∧ s.lifecycle.wait = .done := by
  obtain ⟨hadmitting, hnone⟩ := Lifecycle.isFinished_iff.mp hfinished
  refine ⟨hsound.activities.symm.trans hnone, ?_⟩
  rw [Lifecycle.wait, hsound.admitting hadmitting, hfinished]
  rfl

theorem Idle.servedAt (hidle : Idle s place) : s.servedAt place = 0 := by
  rw [Interplay.servedAt]
  cases htask : s.tasks[place]? with
  | none => rfl
  | some task => exact (hidle task htask).1

end Calls

/-- A connection that arrives between two steps of a shutdown is still served and waited for, and
the next one is dropped. -/
example :
    (run {} [.call .listen, .proceed 0, .call .shutdown, .proceed 1, .accept 0, .call .wait,
      .proceed 3, .proceed 3, .proceed 1, .accept 0, .proceed 1, .proceed 3, .proceed 2,
      .proceed 3]).tasks =
      [.listen (.accepting 1), .shutdown (.returned true), .activity .ended, .wait .done] := by
  decide

end Interplay
end MailIntake
