import MailIntake.Proofs.Server.Balance
import MailIntake.Proofs.Session.Accounts
/-!
The counts of a server.  At every moment they agree with what has happened on all connections, in
whatever order it came: bytes are counted as they are read and written, messages as they pass their
stages, and connections as they come, are turned away and end (`run_counters`).
-/
namespace MailIntake

open Address

universe u v

variable {W : Type u}

/-- What is put at a place adds to a sum what it has more than what stood there. -/
theorem sum_set_add {A : Type v} (f : A → Nat) {items : List A} {place : Nat} {item : A}
    (hplace : items[place]? = some item) (other : A) :
    ((items.set place other).map f).sum + f item = (items.map f).sum + f other := by
  induction items generalizing place with
  | nil => simp at hplace
  | cons first items ih =>
      cases place with
      | zero =>
          cases hplace
          simp only [List.set_cons_zero, List.map_cons, List.sum_cons]
          omega
      | succ place =>
          have hrest := ih hplace
          simp only [List.set_cons_succ, List.map_cons, List.sum_cons]
          omega

namespace Server

section Fields

variable (s : Server W) (session : Session) (before after : Tally)

@[simp]
theorem count_bytesRead : (s.count before after).counters.bytesRead =
    s.counters.bytesRead + (after.bytesRead - before.bytesRead) := rfl

@[simp]
theorem count_bytesWritten : (s.count before after).counters.bytesWritten =
    s.counters.bytesWritten + (after.bytesWritten - before.bytesWritten) := rfl

@[simp]
theorem count_transactions :
    (s.count before after).counters.transactions = s.counters.transactions := rfl

@[simp]
theorem settle_bytesRead : (s.settle session).counters.bytesRead = s.counters.bytesRead := by
  rw [settle]
  split
  · rfl
  · rfl

@[simp]
theorem settle_bytesWritten :
    (s.settle session).counters.bytesWritten = s.counters.bytesWritten := by
  rw [settle]
  split
  · rfl
  · rfl

@[simp]
theorem settle_transactions :
    (s.settle session).counters.transactions = s.counters.transactions := by
  rw [settle]
  split
  · rfl
  · rfl

end Fields

/-- What is read of an input: the bytes that its connection reads where it stands. -/
def reads (s : Server W) : ServerInput → List (Use × UInt8)
  | .session place input =>
      match s.sessions[place]? with
      | none => []
      | some session => Turn.readFrom s.service { session with world := s.world } input.signals
  | .arrival _ _ _ | .turnedAway _ | .shutdown => []

/-- What is written with an input to a connection that is turned away. -/
def tells (s : Server W) : ServerInput → List Reply
  | .turnedAway true => if s.turningAway = 0 then [] else [busyReply]
  | .turnedAway false | .arrival _ _ _ | .session _ _ | .shutdown => []

/-- What a look at each input shows, one after another. -/
def gather {A : Type v} (look : Server W → ServerInput → List A) (s : Server W) :
    List ServerInput → List A
  | [] => []
  | input :: later => look s input ++ (s.step input).gather look later

/-- How many lines have been taken up on all connections, those that were too long among them. -/
def linesTaken (s : Server W) : Nat :=
  (s.sessions.map fun session => (exchanges session.journal).length).sum

/-- The counts agree with what was read, what connections were told that were turned away, and what
the other connections have come to. -/
structure Books (read : List (Use × UInt8)) (told : List Reply) (s : Server W) : Prop where
  sessions : ∀ session ∈ s.sessions, session.Accounted
  bytesRead : s.counters.bytesRead = read.length
  bytesWritten : s.counters.bytesWritten = (s.sessions.map Session.written).sum + sizes told
  messages : s.counters.messages = (s.sessions.map Session.acceptances).sum
  lines : s.linesTaken = read.count (.commandLine, LineReader.byteFeed)
  transactions : s.counters.transactions = s.sessions.length
  answered : told.length + s.turningAway = s.counters.busy

namespace Books

variable {s : Server W} {read : List (Use × UInt8)} {told : List Reply}

theorem start (service : Service W) (world : W) : Books [] [] (start service world) :=
  ⟨List.forall_mem_nil _, rfl, rfl, rfl, rfl, rfl, rfl⟩

/-- The books depend on the connections and on what is counted, activity apart. -/
theorem congr {after : Server W} (hbooks : Books read told s)
    (hsessions : after.sessions = s.sessions) (hturningAway : after.turningAway = s.turningAway)
    (hcounters : after.counters = s.counters) : Books read told after := by
  refine ⟨?_, ?_, ?_, ?_, ?_, ?_, ?_⟩
  · rw [hsessions]
    exact hbooks.sessions
  · rw [hcounters, hbooks.bytesRead]
  · rw [hcounters, hsessions, hbooks.bytesWritten]
  · rw [hcounters, hsessions, hbooks.messages]
  · rw [linesTaken, hsessions, ← linesTaken, hbooks.lines]
  · rw [hcounters, hsessions, hbooks.transactions]
  · rw [hcounters, hturningAway, hbooks.answered]

/-- One more connection is admitted. -/
theorem serve (hbooks : Books read told s) (id : TransactionId) (localAddr remoteAddr : Endpoint) :
    Books read told (s.serve id localAddr remoteAddr) := by
  obtain ⟨t, ht⟩ : ∃ t, t = Turn.start s.service
    (.start id s.service.hostname localAddr remoteAddr) s.world := ⟨_, rfl⟩
  have haccounts := Turn.start_accounts s.service
    (.start id s.service.hostname localAddr remoteAddr) s.world
  rw [← ht] at haccounts
  have hread : t.tally.bytesRead = 0 := haccounts.bytesRead
  have hlines : (exchanges t.journal).length = 0 := haccounts.lines
  rw [Server.serve, ← ht]
  refine ⟨?_, ?_, ?_, ?_, ?_, ?_, ?_⟩
  · simpa [or_imp, forall_and] using And.intro hbooks.sessions haccounts.accounted
  · simp [hread, hbooks.bytesRead]
  · simp [haccounts.accounted.bytesWritten, hbooks.bytesWritten]
    omega
  · simp [haccounts.accounted.messages, hbooks.messages]
  · have hbefore := hbooks.lines
    simpa [linesTaken, hlines] using hbefore
  · simp [hbooks.transactions]
  · simpa using hbooks.answered

/-- A connection arrives. -/
theorem arrive (hbooks : Books read told s) (id : TransactionId)
    (localAddr remoteAddr : Endpoint) : Books read told (s.arrive id localAddr remoteAddr).2 := by
  rcases arrive_cases s id localAddr remoteAddr with hsame | ⟨lifecycle, haway⟩ |
    ⟨lifecycle, gate, hserve⟩
  · rw [hsame]
    exact hbooks
  · rw [haway]
    exact ⟨hbooks.sessions, hbooks.bytesRead, hbooks.bytesWritten, hbooks.messages, hbooks.lines,
      hbooks.transactions, congrArg (· + 1) hbooks.answered⟩
  · rw [hserve]
    have hsame : Books read told { s with lifecycle, gate } := hbooks.congr rfl rfl rfl
    exact hsame.serve id localAddr remoteAddr

/-- The connection at a place goes on, and what it has counted in between is counted. -/
theorem put (hbooks : Books read told s) {place : Nat} {session : Session}
    (hplace : s.sessions[place]? = some session) {t : Turn W} {more : List (Use × UInt8)}
    (haccounts : Turn.Accounts more { session with world := s.world } t) :
    Books (read ++ more) told
      (({ s with sessions := s.sessions.set place t.toSession, world := t.world }.count
        session.tally t.tally).settle t.toSession) := by
  have hbefore := hbooks.sessions session (List.mem_of_getElem? hplace)
  have hafter := haccounts.accounted
  refine ⟨?_, ?_, ?_, ?_, ?_, ?_, ?_⟩
  · intro other hother
    rw [settle_sessions, count_sessions] at hother
    rcases List.mem_or_eq_of_mem_set hother with hold | rfl
    · exact hbooks.sessions other hold
    · exact hafter
  · have hread : t.tally.bytesRead = session.tally.bytesRead + more.length := haccounts.bytesRead
    rw [settle_bytesRead, count_bytesRead, hbooks.bytesRead, hread, List.length_append,
      Nat.add_sub_cancel_left]
  · have hsum := sum_set_add Session.written hplace t.toSession
    have hle : session.tally.bytesWritten ≤ t.tally.bytesWritten := haccounts.bytesWritten
    rw [hbefore.bytesWritten, hafter.bytesWritten] at hle
    rw [settle_bytesWritten, count_bytesWritten, settle_sessions, count_sessions,
      hbooks.bytesWritten, hbefore.bytesWritten, hafter.bytesWritten]
    dsimp only
    omega
  · have hsum := sum_set_add Session.acceptances hplace t.toSession
    have hle : session.tally.messages ≤ t.tally.messages := haccounts.messages
    rw [hbefore.messages, hafter.messages] at hle
    rw [settle_messages, count_messages, settle_sessions, count_sessions, hbooks.messages,
      hbefore.messages, hafter.messages]
    dsimp only
    omega
  · have hsum := sum_set_add (fun x => (exchanges x.journal).length) hplace t.toSession
    have hlines := haccounts.lines
    have hbooked := hbooks.lines
    rw [linesTaken] at hbooked
    rw [linesTaken, settle_sessions, count_sessions, List.count_append]
    dsimp only at hlines ⊢
    omega
  · rw [settle_transactions, settle_sessions, count_sessions, List.length_set]
    exact hbooks.transactions
  · rw [settle_turningAway, settle_busy]
    exact hbooks.answered

/-- The connection at a place goes on, if it has not ended. -/
theorem advance (hbooks : Books read told s) (place : Nat) (input : Input) :
    Books (read ++ s.reads (.session place input)) told (s.advance place input) := by
  cases hplace : s.sessions[place]? with
  | none =>
      simp only [Server.advance, reads, hplace, List.append_nil]
      exact hbooks
  | some session =>
      cases hclosed : session.isClosed with
      | true =>
          have hphase : session.phase = .closed := by simpa [Session.isClosed] using hclosed
          have hnone : s.reads (.session place input) = [] := by
            simp only [reads, hplace]
            exact Turn.readFrom_of_closed hphase _
          simp only [Server.advance, hplace, hclosed, if_true, hnone, List.append_nil]
          exact hbooks
      | false =>
          obtain ⟨t, ht⟩ : ∃ t, t = Turn.step s.service { session with world := s.world } input :=
            ⟨_, rfl⟩
          have hbefore := hbooks.sessions session (List.mem_of_getElem? hplace)
          have haccounts := Turn.heedAll_accounts (t := { session with world := s.world }) s.service
            input.signals hbefore
          rw [← Turn.step_eq_heedAll, ← ht] at haccounts
          have hreads : s.reads (.session place input) =
              Turn.readFrom s.service { session with world := s.world } input.signals := by
            simp only [reads, hplace]
          rw [← hreads] at haccounts
          have hadvance : s.advance place input = ({ s with
              sessions := s.sessions.set place t.toSession, world := t.world }.count session.tally
                t.tally).settle t.toSession := by
            simp only [Server.advance, hplace, hclosed, Bool.false_eq_true, if_false, ht]
          rw [hadvance]
          exact hbooks.put hplace haccounts

/-- A reply to a connection that is turned away is written. -/
theorem endTurningAway (hbooks : Books read told s) :
    Books read (told ++ s.tells (.turnedAway true)) (s.endTurningAway true) := by
  rw [tells, Server.endTurningAway]
  split
  · rw [List.append_nil]
    exact hbooks
  · next hturningAway =>
      refine ⟨hbooks.sessions, hbooks.bytesRead, ?_, hbooks.messages, hbooks.lines,
        hbooks.transactions, ?_⟩
      · rw [sizes_append, ← Nat.add_assoc, ← hbooks.bytesWritten]
        rfl
      · have hanswered := hbooks.answered
        simp only [List.length_append, List.length_singleton]
        omega

/-- The books behind an input. -/
theorem step (hbooks : Books read told s) (input : ServerInput)
    (hwritten : input ≠ .turnedAway false) :
    Books (read ++ s.reads input) (told ++ s.tells input) (s.step input) := by
  cases input with
  | arrival id localAddr remoteAddr =>
      simp only [reads, tells, List.append_nil]
      exact hbooks.arrive id localAddr remoteAddr
  | turnedAway delivered =>
      cases delivered with
      | false => exact absurd rfl hwritten
      | true =>
          rw [reads, List.append_nil]
          exact hbooks.endTurningAway
  | session place input =>
      rw [tells, List.append_nil]
      exact hbooks.advance place input
  | shutdown =>
      simp only [reads, tells, List.append_nil]
      exact hbooks.congr rfl rfl rfl

/-- The books behind any inputs. -/
theorem run (hbooks : Books read told s) (inputs : List ServerInput)
    (hwritten : .turnedAway false ∉ inputs) :
    Books (read ++ s.gather reads inputs) (told ++ s.gather tells inputs) (s.run inputs) := by
  induction inputs generalizing s read told with
  | nil =>
      simp only [gather, List.append_nil]
      exact hbooks
  | cons input inputs ih =>
      rw [List.mem_cons, not_or] at hwritten
      rw [gather, gather, ← List.append_assoc, ← List.append_assoc]
      exact ih (hbooks.step input (Ne.symm hwritten.1)) hwritten.2

end Books

/-- Nothing but the reply to a connection that finds no room is written to one that is turned
away. -/
theorem eq_busyReply_of_mem_gather {s : Server W} {inputs : List ServerInput} {r : Reply}
    (hmem : r ∈ s.gather tells inputs) : r = busyReply := by
  induction inputs generalizing s with
  | nil => cases hmem
  | cons input inputs ih =>
      rw [gather, List.mem_append] at hmem
      rcases hmem with hfirst | hlater
      · cases input with
        | turnedAway delivered =>
            cases delivered with
            | false => cases hfirst
            | true =>
                rw [tells] at hfirst
                split at hfirst
                · cases hfirst
                · exact List.mem_singleton.mp hfirst
        | arrival | session | shutdown => cases hfirst
      · exact ih hlater

/-- Every connection that was admitted is in service or has ended. -/
theorem inService_add_ended (s : Server W) :
    s.inService + s.sessions.countP Session.isClosed = s.sessions.length := by
  have hlength := List.length_eq_countP_add_countP Session.isClosed (l := s.sessions)
  rw [inService, Nat.add_comm, hlength]
  simp

/-- The counts of a server behind any inputs to any number of connections, in any order, where every
reply can be written.  What is read of a client is the command lines, be they too long or never
ended, the responses and the bodies that it sends, and neither what it sends behind QUIT nor what it
sends behind STARTTLS before the handshake. -/
theorem run_counters (service : Service W) (world : W) (inputs : List ServerInput)
    (hwritten : .turnedAway false ∉ inputs) :
    let start := Server.start service world
    let s := start.run inputs
    let read := start.gather reads inputs
    let told := start.gather tells inputs
    let arrivals := start.arrivals (inputs.map .input)
    s.counters.bytesWritten =
        (s.sessions.map fun session => sizes session.replies).sum + sizes told ∧
      (∀ r ∈ told, r = busyReply) ∧ told.length + s.turningAway = arrivals.count .busy ∧
      s.counters.bytesRead = read.length ∧
      read.count (.commandLine, LineReader.byteFeed) = s.linesTaken ∧
      (∀ (t : Turn W) (signal : Signal) (line : CommandLine) (world : W),
        t.lineEnded? signal = some (some line) →
        let after : Turn W := { t.heed service signal with world }
        (line.verb? = some .quit → ∀ later, after.readFrom service later = []) ∧
          (line.verb? = some .startTls → after.journal.head? = some (.replied ⟨220, "Go ahead"⟩) →
            ∀ bytes : List UInt8, after.readFrom service (bytes.map .byte) = [])) ∧
      s.counters.transactions = arrivals.count .admitted ∧
      s.sessions.length = arrivals.count .admitted ∧
      s.counters.busy = arrivals.count .busy ∧
      s.counters.messages =
        (s.sessions.map fun session => (exchanges session.journal).countP Exchange.accepts).sum ∧
      s.counters.active = s.inService ∧
      s.inService + s.sessions.countP Session.isClosed = s.sessions.length ∧
      ((∀ session ∈ s.sessions, session.isClosed) → s.counters.active = 0) := by
  intro start s read told arrivals
  have hbooks : Books read told s := (Books.start service world).run inputs hwritten
  have hlive : start.live (inputs.map .input) = s := live_inputs start inputs
  obtain ⟨hbusy, hadmitted⟩ := live_counts (s := start) (inputs.map .input)
  rw [hlive] at hbusy hadmitted
  have hbusy' : s.counters.busy = arrivals.count .busy := by
    rw [hbusy]
    exact Nat.zero_add _
  have hadmitted' : s.sessions.length = arrivals.count .admitted := by
    rw [hadmitted]
    exact Nat.zero_add _
  have hactive : s.counters.active = s.inService := by
    have hstart : Holds service.settings.slots? false start.inService start := .start service world
    have hholds := hstart.live (inputs.map .input)
    rw [hlive] at hholds
    exact hholds.active
  have hended := inService_add_ended s
  refine ⟨hbooks.bytesWritten, fun r => eq_busyReply_of_mem_gather, ?_, hbooks.bytesRead,
    hbooks.lines.symm, ?_, ?_, hadmitted', hbusy', hbooks.messages, hactive, hended, ?_⟩
  · rw [hbooks.answered, hbusy']
  · intro t signal line world hline
    exact Turn.readFrom_behind hline world
  · rw [hbooks.transactions, hadmitted']
  · intro hall
    have hnone : s.inService = 0 := by
      rw [List.countP_eq_length.mpr hall] at hended
      omega
    rw [hactive, hnone]
    rfl

end Server

namespace Sample

/-- A service with room for one client, which offers encryption. -/
def narrow : Service Unit :=
  { hostname := "mx", settings := { maxConnections := 1 }, offersTls := true }

/-- A client that asks for a handshake and goes on without it, and one that finds no room. -/
def impatient : List ServerInput :=
  [.arrival ⟨1⟩ place place, .arrival ⟨2⟩ place place,
    .session 0 (.bytes (Text.Utf8.encode "STARTTLS\r\nNOOP\r\n")), .turnedAway true,
    .session 0 .ended]

end Sample

namespace Server

/-- Of what the client sends ten bytes are read, its request for a handshake. -/
theorem run_counters_impatient :
    let s := (start Sample.narrow ()).run Sample.impatient
    s.counters.bytesRead = 10 ∧ s.counters.transactions = 1 ∧ s.counters.busy = 1 ∧
      s.counters.active = 0 ∧ s.counters.bytesWritten =
        (s.sessions.map fun session => sizes session.replies).sum + busyReply.size := by
  intro s
  obtain ⟨hsizes, -, -, hread, -, -, htransactions, -, hbusy, -, -, -, hactive⟩ :=
    run_counters Sample.narrow () Sample.impatient (by decide)
  have hten : ((start Sample.narrow ()).gather reads Sample.impatient).length = 10 := by
    decide +kernel
  have htold : (start Sample.narrow ()).gather tells Sample.impatient = [busyReply] := by
    decide +kernel
  rw [htold] at hsizes
  refine ⟨hread.trans hten, htransactions.trans ?_, hbusy.trans ?_, hactive ?_, hsizes⟩
  · decide +kernel
  · decide +kernel
  · decide +kernel

end Server
end MailIntake
