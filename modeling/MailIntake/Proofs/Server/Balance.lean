import MailIntake.Proofs.Server.Change
/-!
What connections hold and when they give it back.  A connection in service holds a slot of the gate,
an activity and a place in the count of active connections, and one that is turned away only an
activity.  So the gate lets a connection pass exactly when fewer are in service than it has slots
(`live_admissions_bounded`).
-/
namespace MailIntake

open Address Text

universe u

variable {W : Type u}

/-- How many connections the gate has slots for, or no gate. -/
def Settings.slots? (settings : Settings) : Option Nat :=
  settings.connectionLimit.map fun limit => min limit Gate.maxCapacity

/-- Something that happens to a server, or to one of its connections behind the server's back: what
is written may not be delivered, and a connection that breaks off for this or any other reason may
leave anything behind. -/
inductive Happening (W : Type u)
  | input (input : ServerInput)
  /-- The connection at a place breaks off. -/
  | broken (place : Nat) (left : Session) (world : W)

def Happening.isShutdown : Happening W → Bool
  | .input .shutdown => true
  | .input (.arrival _ _ _) | .input (.turnedAway _) | .input (.session _ _) => false
  | .broken _ _ _ => false

namespace Server

def breakOff (s : Server W) (place : Nat) (left : Session) (world : W) : Server W :=
  match s.sessions[place]? with
  | none => s
  | some session =>
      if session.isClosed then s
      else
        let left := { left with phase := .closed }
        let s := { s with sessions := s.sessions.set place left, world }
        (s.count session.tally left.tally).settle left

def happen (s : Server W) : Happening W → Server W
  | .input input => s.step input
  | .broken place left world => s.breakOff place left world

/-- Behind all that happens, one thing after another. -/
def live (s : Server W) (happenings : List (Happening W)) : Server W :=
  happenings.foldl happen s

/-- If nothing happens behind its back, a server does what its inputs do. -/
theorem live_inputs (s : Server W) (inputs : List ServerInput) :
    s.live (inputs.map .input) = s.run inputs := by
  rw [live, List.foldl_map]
  rfl

/-- How many connections are in service. -/
def inService (s : Server W) : Nat :=
  s.sessions.countP fun session => !session.isClosed

def serves (s : Server W) (place : Nat) : Bool :=
  s.sessions[place]?.any fun session => !session.isClosed

/-- A connection at its start, with its first words if it is ready for them. -/
def served (s : Server W) (id : TransactionId) (localAddr remoteAddr : Endpoint) : Session :=
  (Turn.start s.service (.start id s.service.hostname localAddr remoteAddr) s.world).toSession

/-- What becomes of the connection that arrives, if one does. -/
def arrival? (s : Server W) : Happening W → Option Arrival
  | .input (.arrival id localAddr remoteAddr) => some (s.arrive id localAddr remoteAddr).1
  | .input _ | .broken _ _ _ => none

def arrivals (s : Server W) : List (Happening W) → List Arrival
  | [] => []
  | happening :: later => (s.arrival? happening).toList ++ (s.happen happening).arrivals later

/-- What a server can do to a connection that arrives. -/
inductive ArrivalStep (s : Server W) (session : Session) : Arrival → Server W → Prop
  /-- It is neither served nor answered. -/
  | ignored : ArrivalStep s session .ignored s
  /-- It is turned away and takes no slot. -/
  | busy (after : Server W) (hsessions : after.sessions = s.sessions) (hgate : after.gate = s.gate)
      (hturningAway : after.turningAway = s.turningAway + 1)
      (hbusy : after.counters.busy = s.counters.busy + 1) : ArrivalStep s session .busy after
  /-- It is served. -/
  | admitted (after : Server W) (hsessions : after.sessions = s.sessions ++ [session])
      (hturningAway : after.turningAway = s.turningAway)
      (hbusy : after.counters.busy = s.counters.busy) : ArrivalStep s session .admitted after

/-- What can become of a connection: one in service stays in service or ends, and another one stays
as it is. -/
inductive SessionStep (s : Server W) (place : Nat) : Server W → Prop
  | unserved (hserves : s.serves place = false) : SessionStep s place s
  | moved (session left : Session) (world : W) (after : Server W)
      (hplace : s.sessions[place]? = some session) (hopen : session.isClosed = false)
      (hafter : after = ({ s with sessions := s.sessions.set place left, world }.count
        session.tally left.tally).settle left) : SessionStep s place after

/-- What can happen to the connections of a server when one arrives or none does. -/
inductive HappeningStep (s : Server W) : Option Arrival → Server W → Prop
  | met (session : Session) (arrival : Arrival) (after : Server W)
      (harrived : ArrivalStep s session arrival after) : HappeningStep s (some arrival) after
  | moved (place : Nat) (after : Server W) (hmoved : SessionStep s place after) :
      HappeningStep s none after
  | still (after : Server W) (hsessions : after.sessions = s.sessions)
      (hbusy : after.counters.busy = s.counters.busy) : HappeningStep s none after

section SessionStep

variable (s : Server W) (place : Nat)

theorem serves_of_getElem? {session : Session} (hplace : s.sessions[place]? = some session) :
    s.serves place = !session.isClosed := by
  rw [serves, hplace]
  rfl

theorem serves_of_none (hplace : s.sessions[place]? = none) : s.serves place = false := by
  rw [serves, hplace]
  rfl

/-- Nothing becomes of a connection that is not in service. -/
theorem sessionStep_of_lookup {next : Session → Server W}
    (hnext : ∀ session, s.sessions[place]? = some session → session.isClosed = false →
      SessionStep s place (next session)) :
    SessionStep s place (match s.sessions[place]? with
      | none => s
      | some session => if session.isClosed then s else next session) := by
  cases hplace : s.sessions[place]? with
  | none => exact .unserved (serves_of_none s place hplace)
  | some session =>
      cases hclosed : session.isClosed with
      | true =>
          simp only [hclosed, if_true]
          exact .unserved (by rw [serves_of_getElem? s place hplace, hclosed]; rfl)
      | false =>
          simp only [hclosed, Bool.false_eq_true, if_false]
          exact hnext session hplace hclosed

theorem advance_sessionStep (input : Input) : SessionStep s place (s.advance place input) := by
  rw [advance]
  apply sessionStep_of_lookup
  intro session hplace hopen
  exact .moved session _ _ _ hplace hopen rfl

theorem breakOff_sessionStep (left : Session) (world : W) :
    SessionStep s place (s.breakOff place left world) := by
  rw [breakOff]
  apply sessionStep_of_lookup
  intro session hplace hopen
  exact .moved session _ world _ hplace hopen rfl

variable {s place} {after : Server W}

/-- A connection in service is one of those that are counted, and what becomes of it does not change
how many others are. -/
theorem exists_others {session : Session} (hplace : s.sessions[place]? = some session)
    (hopen : session.isClosed = false) :
    ∃ others, s.inService = others + 1 ∧ ∀ left : Session,
      (s.sessions.set place left).countP (fun session => !session.isClosed) =
        others + if left.isClosed then 0 else 1 := by
  have hset := countP_set_add (fun session : Session => !session.isClosed) hplace
  rw [← inService, hopen] at hset
  obtain ⟨others, hothers⟩ : ∃ others, s.inService = others + 1 := by
    have hpos : 0 < s.inService := by
      refine List.countP_pos_iff.mpr ⟨session, List.mem_of_getElem? hplace, ?_⟩
      rw [hopen]
      rfl
    exact ⟨s.inService - 1, by omega⟩
  refine ⟨others, hothers, fun left => ?_⟩
  have hleft := hset left
  rw [hothers] at hleft
  cases hclosed : left.isClosed with
  | true => simpa [hclosed] using hleft
  | false => simpa [hclosed] using hleft

/-- A connection leaves service when it ends, and no other does. -/
theorem SessionStep.inService (hmoved : SessionStep s place after) : after.inService +
    (if s.serves place ∧ ¬ after.serves place then 1 else 0) = s.inService := by
  cases hmoved with
  | unserved hserves =>
      rw [hserves]
      simp
  | moved session left world after hplace hopen hafter =>
      obtain ⟨hlt, -⟩ := List.getElem?_eq_some_iff.mp hplace
      obtain ⟨others, hbefore, hcount⟩ := exists_others hplace hopen
      have hleft : after.sessions[place]? = some left := by
        rw [hafter, settle_sessions, count_sessions, List.getElem?_set_self hlt]
      have hothers : after.inService = others + if left.isClosed then 0 else 1 := by
        rw [hafter, Server.inService, settle_sessions, count_sessions, hcount]
      rw [serves_of_getElem? _ _ hplace, serves_of_getElem? _ _ hleft, hopen, hothers, hbefore]
      cases left.isClosed with
      | true => rfl
      | false => rfl

/-- A connection that has ended stays as it is, whatever becomes of another one. -/
theorem SessionStep.ended (hmoved : SessionStep s place after) {other : Nat} {session : Session}
    (hother : s.sessions[other]? = some session) (hclosed : session.isClosed) :
    after.sessions[other]? = some session := by
  cases hmoved with
  | unserved => exact hother
  | moved moved left world after hplace hopen hafter =>
      have hne : place ≠ other := by
        intro heq
        rw [heq, hother, Option.some.injEq] at hplace
        rw [← hplace, hclosed] at hopen
        cases hopen
      rw [hafter, settle_sessions, count_sessions, List.getElem?_set_ne hne]
      exact hother

theorem SessionStep.counts (hmoved : SessionStep s place after) :
    after.counters.busy = s.counters.busy ∧ after.sessions.length = s.sessions.length := by
  cases hmoved with
  | unserved => exact ⟨rfl, rfl⟩
  | moved session left world after hplace hopen hafter => simp [hafter]

end SessionStep

section HappeningStep

variable (s : Server W) {after : Server W} {arrival? : Option Arrival}

theorem arrive_arrivalStep (id : TransactionId) (localAddr remoteAddr : Endpoint) :
    ArrivalStep s (s.served id localAddr remoteAddr) (s.arrive id localAddr remoteAddr).1
      (s.arrive id localAddr remoteAddr).2 := by
  rw [arrive]
  split
  · exact .ignored
  · next lifecycle hlifecycle =>
      simp only
      split
      · exact .busy _ rfl rfl rfl rfl
      · next roomy hroom =>
          obtain ⟨gate, rfl⟩ := room?_eq _ hroom
          exact .admitted _ (by simp [serve, served]) (by simp [serve]) (by simp [serve])

/-- Only a connection that is turned away is told something before it is served. -/
theorem told_eq (arrival : Arrival) :
    told arrival =
      if arrival = .busy then some ⟨421, "Too busy. Try again later."⟩ else none := by
  cases arrival <;> rfl

theorem endTurningAway_sessions (delivered : Bool) :
    (s.endTurningAway delivered).sessions = s.sessions := by
  rw [endTurningAway]
  split
  · rfl
  · rfl

theorem endTurningAway_busy (delivered : Bool) :
    (s.endTurningAway delivered).counters.busy = s.counters.busy := by
  rw [endTurningAway]
  split
  · rfl
  · rfl

/-- A connection that is turned away holds no slot that it could give back, and the reply to it is
counted if it has been written. -/
theorem endTurningAway_gate (delivered : Bool) :
    (s.endTurningAway delivered).gate = s.gate ∧
      (s.endTurningAway delivered).turningAway = s.turningAway - 1 ∧
      (s.endTurningAway delivered).counters.bytesWritten = s.counters.bytesWritten +
        if delivered ∧ 0 < s.turningAway then (Utf8.encode busyReply.render).length else 0 := by
  rw [endTurningAway]
  split
  · next hturningAway => simp [hturningAway]
  · next hturningAway => simp [Nat.pos_of_ne_zero hturningAway]

/-- Something that happens does one of the listed things to connections. -/
theorem happen_happeningStep (happening : Happening W) :
    HappeningStep s (s.arrival? happening) (s.happen happening) := by
  cases happening with
  | broken place left world => exact .moved place _ (breakOff_sessionStep s place left world)
  | input input =>
      cases input with
      | arrival id localAddr remoteAddr =>
          exact .met _ _ _ (arrive_arrivalStep s id localAddr remoteAddr)
      | turnedAway delivered =>
          exact .still _ (endTurningAway_sessions s delivered) (endTurningAway_busy s delivered)
      | session place input => exact .moved place _ (advance_sessionStep s place input)
      | shutdown => exact .still _ rfl rfl

variable {s}

/-- One connection more is in service at most when one arrives, and none when none does. -/
theorem HappeningStep.inService_le (hhappened : HappeningStep s arrival? after) :
    after.inService ≤ s.inService + arrival?.toList.length := by
  cases hhappened with
  | met session arrival after harrived =>
      cases harrived with
      | ignored => exact Nat.le_succ _
      | busy _ hsessions =>
          rw [inService, hsessions]
          exact Nat.le_succ _
      | admitted _ hsessions =>
          rw [inService, hsessions, List.countP_append, List.countP_singleton]
          apply Nat.add_le_add_left
          split
          · exact Nat.le_refl 1
          · exact Nat.zero_le 1
  | moved place after hmoved =>
      have hcount := hmoved.inService
      omega
  | still after hsessions =>
      rw [inService, hsessions]
      exact Nat.le_add_right _ _

/-- A connection that has ended stays as it is. -/
theorem HappeningStep.ended (hhappened : HappeningStep s arrival? after) {place : Nat}
    {session : Session} (hplace : s.sessions[place]? = some session) (hclosed : session.isClosed) :
    after.sessions[place]? = some session := by
  cases hhappened with
  | met _ arrival after harrived =>
      cases harrived with
      | ignored => exact hplace
      | busy _ hsessions => rw [hsessions, hplace]
      | admitted _ hsessions =>
          obtain ⟨hlt, -⟩ := List.getElem?_eq_some_iff.mp hplace
          rw [hsessions, List.getElem?_append_left hlt, hplace]
  | moved other after hmoved => exact hmoved.ended hplace hclosed
  | still after hsessions => rw [hsessions, hplace]

theorem HappeningStep.counts (hhappened : HappeningStep s arrival? after) :
    after.counters.busy = s.counters.busy + arrival?.toList.count .busy ∧
      after.sessions.length = s.sessions.length + arrival?.toList.count .admitted := by
  cases hhappened with
  | met session arrival after harrived =>
      cases harrived with
      | ignored => exact ⟨rfl, rfl⟩
      | busy _ hsessions _ _ hbusy => exact ⟨hbusy, by rw [hsessions]; rfl⟩
      | admitted _ hsessions _ hbusy => exact ⟨hbusy, by rw [hsessions, List.length_append]; rfl⟩
  | moved place after hmoved => exact hmoved.counts
  | still after hsessions hbusy => exact ⟨hbusy, by rw [hsessions]; rfl⟩

/-- A connection that has ended stays as it is, whatever happens later. -/
theorem live_ended (happenings : List (Happening W)) {place : Nat} {session : Session}
    (hplace : s.sessions[place]? = some session) (hclosed : session.isClosed) :
    (s.live happenings).sessions[place]? = some session := by
  induction happenings generalizing s with
  | nil => exact hplace
  | cons happening later ih => exact ih ((happen_happeningStep s happening).ended hplace hclosed)

/-- The server counts the connections that it turns away and keeps those that it serves. -/
theorem live_counts (happenings : List (Happening W)) :
    (s.live happenings).counters.busy =
        s.counters.busy + (s.arrivals happenings).count .busy ∧
      (s.live happenings).sessions.length =
        s.sessions.length + (s.arrivals happenings).count .admitted := by
  induction happenings generalizing s with
  | nil => exact ⟨rfl, rfl⟩
  | cons happening later ih =>
      obtain ⟨hbusy, hsessions⟩ := (happen_happeningStep s happening).counts
      rw [arrivals, List.count_append, List.count_append, ← Nat.add_assoc, ← Nat.add_assoc,
        ← hbusy, ← hsessions]
      exact ih

end HappeningStep

theorem inService_serve (s : Server W) (id : TransactionId) (localAddr remoteAddr : Endpoint) :
    (s.serve id localAddr remoteAddr).inService =
      s.inService + if (s.served id localAddr remoteAddr).isClosed then 0 else 1 := by
  rw [serve, inService, settle_sessions, count_sessions, List.countP_append,
    List.countP_singleton, ← served]
  cases (s.served id localAddr remoteAddr).isClosed with
  | true => rfl
  | false => rfl

/-- What `n` connections in service hold, with those that are being turned away, of a server with
the given slots that has been asked to shut down or not. -/
structure Holds (slots? : Option Nat) (asked : Bool) (n : Nat) (s : Server W) : Prop where
  lifecycle : s.lifecycle = ⟨asked, !asked, asked, n + s.turningAway⟩
  gate : s.gate = slots?.map fun capacity => ⟨capacity, n⟩
  within : ∀ capacity ∈ slots?, n ≤ capacity
  active : s.counters.active = n

namespace Holds

variable {slots? : Option Nat} {asked : Bool} {n : Nat} {s : Server W}

theorem start (service : Service W) (world : W) :
    Holds service.settings.slots? false 0 (start service world) where
  lifecycle := rfl
  gate := by
    rw [Settings.slots?, Option.map_map]
    rfl
  within _ _ := Nat.zero_le _
  active := rfl

/-- A connection gives back what it held. -/
theorem release (hholds : Holds slots? asked (n + 1) s) : Holds slots? asked n s.release := by
  refine ⟨?_, ?_, ?_, ?_⟩
  · have hturningAway : s.release.turningAway = s.turningAway := rfl
    rw [Server.release, Lifecycle.endActivity, hholds.lifecycle]
    simp only [Lifecycle.mk.injEq, true_and]
    omega
  · rw [Server.release, hholds.gate, Option.map_map]
    rfl
  · intro capacity hcapacity
    exact Nat.le_of_succ_le (hholds.within capacity hcapacity)
  · rw [Server.release, hholds.active]
    simp

theorem settle (hholds : Holds slots? asked (n + 1) s) (session : Session) :
    Holds slots? asked (n + if session.isClosed then 0 else 1) (s.settle session) := by
  rw [Server.settle]
  split
  · exact hholds.release
  · exact hholds

/-- What is held depends on the gate, the activities and the count of active connections. -/
theorem congr {after : Server W} (hholds : Holds slots? asked n s)
    (hlifecycle : after.lifecycle = s.lifecycle) (hgate : after.gate = s.gate)
    (hactive : after.counters.active = s.counters.active)
    (hturningAway : after.turningAway = s.turningAway) : Holds slots? asked n after := by
  refine ⟨?_, ?_, hholds.within, ?_⟩
  · rw [hlifecycle, hturningAway, hholds.lifecycle]
  · rw [hgate, hholds.gate]
  · rw [hactive, hholds.active]

theorem shutdown (hholds : Holds slots? asked n s) : Holds slots? true n s.shutdown.2 := by
  refine ⟨?_, hholds.gate, hholds.within, hholds.active⟩
  have hturningAway : s.shutdown.2.turningAway = s.turningAway := rfl
  rw [Server.shutdown, Lifecycle.initiateShutdown, Lifecycle.raiseFlag, hholds.lifecycle]
  cases asked with
  | false => rfl
  | true => rfl

/-- The reply to a connection that is turned away is done with, whether it was written or not. -/
theorem endTurningAway (hholds : Holds slots? asked n s) (delivered : Bool) :
    Holds slots? asked n (s.endTurningAway delivered) := by
  rw [Server.endTurningAway]
  split
  · exact hholds
  · next hturningAway =>
      refine ⟨?_, hholds.gate, hholds.within, hholds.active⟩
      rw [Lifecycle.endActivity, hholds.lifecycle]
      simp only [Lifecycle.mk.injEq, true_and]
      omega

/-- Where not every slot is taken, one is free. -/
theorem lt_of_room (hholds : Holds slots? asked n s) (hroom : slots? ≠ some n) :
    ∀ capacity ∈ slots?, n < capacity := by
  intro capacity hcapacity
  have hle := hholds.within capacity hcapacity
  have hne : capacity ≠ n := fun heq => hroom (heq ▸ hcapacity)
  omega

section Arrivals

variable (id : TransactionId) (localAddr remoteAddr : Endpoint)

/-- When a shutdown has been asked for, nothing happens. -/
theorem arrive_of_asked (hholds : Holds slots? true n s) :
    s.arrive id localAddr remoteAddr = (.ignored, s) := by
  rw [arrive, Lifecycle.beginActivity?, hholds.lifecycle]
  rfl

/-- When every slot is taken, the connection is turned away and gets no slot. -/
theorem arrive_of_full (hholds : Holds slots? false n s) (hfull : slots? = some n) :
    s.arrive id localAddr remoteAddr =
      (.busy, { s with lifecycle := ⟨false, true, false, n + s.turningAway + 1⟩ }.turnAway) := by
  have hgate : s.gate = some ⟨n, n⟩ := by
    rw [hholds.gate, hfull, Option.map_some]
  simp [arrive, Lifecycle.beginActivity?, hholds.lifecycle, room?, hgate, Gate.enter?]

/-- When there is a slot or no gate, the connection is served and takes a slot. -/
theorem arrive_of_room (hholds : Holds slots? false n s) (hroom : slots? ≠ some n) :
    s.arrive id localAddr remoteAddr =
      (.admitted, { s with
        lifecycle := ⟨false, true, false, n + s.turningAway + 1⟩
        gate := slots?.map fun capacity => ⟨capacity, n + 1⟩ }.serve id localAddr remoteAddr) := by
  have hgate := hholds.gate
  cases hslots : slots? with
  | none =>
      rw [hslots] at hgate
      simp [arrive, Lifecycle.beginActivity?, hholds.lifecycle, room?, hgate]
  | some capacity =>
      have hlt : n < capacity := hholds.lt_of_room hroom capacity hslots
      rw [hslots] at hgate
      simp [arrive, Lifecycle.beginActivity?, hholds.lifecycle, room?, hgate, Gate.enter?, hlt]

/-- What becomes of a connection that arrives. -/
theorem arrive_fst (hholds : Holds slots? asked n s) :
    (s.arrive id localAddr remoteAddr).1 =
      if asked then .ignored else if slots? = some n then .busy else .admitted := by
  cases asked with
  | true => rw [hholds.arrive_of_asked, if_pos rfl]
  | false =>
      rw [if_neg Bool.false_ne_true]
      by_cases hfull : slots? = some n
      · rw [hholds.arrive_of_full _ _ _ hfull, if_pos hfull]
      · rw [hholds.arrive_of_room _ _ _ hfull, if_neg hfull]

end Arrivals

/-- A connection that has passed the gate is served. -/
theorem serve (hholds : Holds slots? asked n s) (lifecycle : Lifecycle) (gate : Option Gate)
    (id : TransactionId) (localAddr remoteAddr : Endpoint)
    (hlifecycle : lifecycle = ⟨asked, !asked, asked, n + s.turningAway + 1⟩)
    (hgate : gate = slots?.map fun capacity => ⟨capacity, n + 1⟩)
    (hwithin : ∀ capacity ∈ slots?, n + 1 ≤ capacity) :
    let served := s.served id localAddr remoteAddr
    Holds slots? asked (n + if served.isClosed then 0 else 1)
      ({ s with lifecycle, gate }.serve id localAddr remoteAddr) := by
  intro served
  refine settle ⟨?_, hgate, hwithin, ?_⟩ served
  · rw [count_lifecycle, count_turningAway, hlifecycle]
    simp only [Lifecycle.mk.injEq, true_and]
    omega
  · rw [count_active]
    simp [hholds.active]

variable {after : Server W}

theorem arrive (hholds : Holds slots? asked s.inService s) (id : TransactionId)
    (localAddr remoteAddr : Endpoint) :
    Holds slots? asked (s.arrive id localAddr remoteAddr).2.inService
      (s.arrive id localAddr remoteAddr).2 := by
  cases asked with
  | true =>
      rw [hholds.arrive_of_asked]
      exact hholds
  | false =>
      by_cases hfull : slots? = some s.inService
      · rw [hholds.arrive_of_full _ _ _ hfull]
        refine ⟨?_, hholds.gate, hholds.within, hholds.active⟩
        simp only [turnAway, inService, Bool.not_false, Lifecycle.mk.injEq, true_and]
        omega
      · rw [hholds.arrive_of_room _ _ _ hfull]
        rw [inService_serve]
        exact hholds.serve _ _ id localAddr remoteAddr rfl rfl (hholds.lt_of_room hfull)

theorem sessionStep {place : Nat} (hholds : Holds slots? asked s.inService s)
    (hmoved : SessionStep s place after) : Holds slots? asked after.inService after := by
  cases hmoved with
  | unserved => exact hholds
  | moved session left world after hplace hopen hafter =>
      -- What is held is what the others hold, and perhaps what this connection goes on to hold.
      obtain ⟨others, hbefore, hcount⟩ := exists_others hplace hopen
      rw [hbefore] at hholds
      rw [hafter, inService, settle_sessions, count_sessions, hcount]
      apply settle
      exact hholds.congr rfl rfl rfl rfl

/-- What connections hold, behind something that happens. -/
theorem happen (hholds : Holds slots? asked s.inService s) (happening : Happening W) :
    Holds slots? (asked || happening.isShutdown) (s.happen happening).inService
      (s.happen happening) := by
  cases happening with
  | broken place left world =>
      rw [Happening.isShutdown, Bool.or_false]
      exact hholds.sessionStep (breakOff_sessionStep s place left world)
  | input input =>
      cases input with
      | arrival id localAddr remoteAddr =>
          rw [Happening.isShutdown, Bool.or_false]
          exact hholds.arrive id localAddr remoteAddr
      | turnedAway delivered =>
          rw [Happening.isShutdown, Bool.or_false, Server.happen, Server.step, inService,
            endTurningAway_sessions]
          exact hholds.endTurningAway delivered
      | session place input =>
          rw [Happening.isShutdown, Bool.or_false]
          exact hholds.sessionStep (advance_sessionStep s place input)
      | shutdown =>
          rw [Happening.isShutdown, Bool.or_true]
          exact hholds.shutdown

/-- What connections hold, behind all that happens. -/
theorem live (hholds : Holds slots? asked s.inService s) (happenings : List (Happening W)) :
    Holds slots? (asked || happenings.any Happening.isShutdown) (s.live happenings).inService
      (s.live happenings) := by
  induction happenings generalizing s asked with
  | nil =>
      rw [List.any_nil, Bool.or_false]
      exact hholds
  | cons happening later ih =>
      rw [List.any_cons, ← Bool.or_assoc]
      exact ih (hholds.happen happening)

/-- What becomes of a connection that arrives by something that happens. -/
theorem arrival?_eq {n : Nat} (hholds : Holds slots? asked n s) {happening : Happening W}
    {arrival : Arrival} (hmem : arrival ∈ (s.arrival? happening).toList) :
    arrival = if asked then .ignored else if slots? = some n then .busy else .admitted := by
  cases happening with
  | broken => simp [arrival?] at hmem
  | input input =>
      cases input with
      | arrival id localAddr remoteAddr =>
          rw [arrival?, Option.toList_some, List.mem_singleton, hholds.arrive_fst] at hmem
          exact hmem
      | turnedAway | session | shutdown => simp [arrival?] at hmem

/-- Without a gate nobody is turned away. -/
theorem arrivals_of_no_gate (hholds : Holds none asked s.inService s)
    (happenings : List (Happening W)) : .busy ∉ s.arrivals happenings := by
  induction happenings generalizing s asked with
  | nil => exact List.not_mem_nil
  | cons happening later ih =>
      rw [arrivals, List.mem_append]
      rintro (hmem | hmem)
      · have harrival := hholds.arrival?_eq hmem
        cases asked with
        | true => cases harrival
        | false => cases harrival
      · exact ih (hholds.happen happening) hmem

/-- As many connections can be served as there are free slots. -/
theorem arrivals_of_room (hholds : Holds slots? false s.inService s)
    (happenings : List (Happening W)) (hrunning : happenings.any Happening.isShutdown = false)
    (hroom : ∀ capacity ∈ slots?, s.inService + (s.arrivals happenings).length ≤ capacity) :
    ∀ arrival ∈ s.arrivals happenings, arrival = .admitted := by
  induction happenings generalizing s with
  | nil => exact List.forall_mem_nil _
  | cons happening later ih =>
      rw [List.any_cons, Bool.or_eq_false_iff] at hrunning
      have hnext := hholds.happen happening
      rw [hrunning.1, Bool.or_false] at hnext
      rw [arrivals, List.length_append] at hroom
      rw [arrivals, List.forall_mem_append]
      constructor
      · intro arrival hmem
        have hfree : slots? ≠ some s.inService := by
          intro hfull
          have hle := hroom _ hfull
          have hpos := List.length_pos_of_mem hmem
          omega
        rw [hholds.arrival?_eq hmem, if_neg Bool.false_ne_true, if_neg hfree]
      · -- Only a connection that arrives takes a slot, so the later ones have room, too.
        apply ih hnext hrunning.2
        intro capacity hcapacity
        have hle := hroom capacity hcapacity
        have hstep := (happen_happeningStep s happening).inService_le
        omega

end Holds

/-- Connections, slots and counts behind whatever happens to a server: connections that arrive, are
served and end in any way, replies to those that are turned away and calls for a shutdown.  Each
connection in service has a slot, if there are slots, and nothing else takes one.  A connection is
ignored if a shutdown has been asked for, turned away with 421 and counted if all slots are taken,
and served otherwise.  It gives its slot back when it ends, once, so that as many connections as
there are free slots are served whenever they come. -/
theorem live_admissions_bounded (service : Service W) (world : W)
    (happenings : List (Happening W)) :
    let start := Server.start service world
    let s := start.live happenings
    let slots? := service.settings.slots?
    s.gate = slots?.map (fun capacity => ⟨capacity, s.inService⟩) ∧
      (∀ capacity ∈ slots?, s.inService ≤ capacity) ∧
      s.lifecycle.activities = s.inService + s.turningAway ∧
      s.counters.active = s.inService ∧
      (∀ id localAddr remoteAddr,
        (s.arrive id localAddr remoteAddr).1 =
            (if happenings.any Happening.isShutdown then .ignored
              else if slots? = some s.inService then .busy else .admitted) ∧
          told (s.arrive id localAddr remoteAddr).1 =
            (if (s.arrive id localAddr remoteAddr).1 = .busy then
              some ⟨421, "Too busy. Try again later."⟩ else none) ∧
          ArrivalStep s (s.served id localAddr remoteAddr) (s.arrive id localAddr remoteAddr).1
            (s.arrive id localAddr remoteAddr).2) ∧
      s.counters.busy = (start.arrivals happenings).count .busy ∧
      s.sessions.length = (start.arrivals happenings).count .admitted ∧
      (service.settings.connectionLimit = none → .busy ∉ start.arrivals happenings) ∧
      (∀ delivered, (s.endTurningAway delivered).sessions = s.sessions ∧
        (s.endTurningAway delivered).gate = s.gate ∧
        (s.endTurningAway delivered).turningAway = s.turningAway - 1 ∧
        (s.endTurningAway delivered).counters.bytesWritten = s.counters.bytesWritten +
          if delivered ∧ 0 < s.turningAway then (Utf8.encode busyReply.render).length else 0) ∧
      (∀ place after, ((∃ input, after = s.advance place input) ∨
          ∃ left world, after = s.breakOff place left world) →
        after.inService + (if s.serves place ∧ ¬ after.serves place then 1 else 0) =
          s.inService) ∧
      (∀ (place : Nat) (session : Session), s.sessions[place]? = some session → session.isClosed →
        ∀ later, (s.live later).sessions[place]? = some session) ∧
      (happenings.any Happening.isShutdown = false →
        ∀ later, later.any Happening.isShutdown = false →
          (∀ capacity ∈ slots?, s.inService + (s.arrivals later).length ≤ capacity) →
            ∀ arrival ∈ s.arrivals later, arrival = .admitted) := by
  intro start s slots?
  have hstart : Holds slots? false start.inService start := .start service world
  have hholds : Holds slots? (happenings.any Happening.isShutdown) s.inService s := by
    rw [← Bool.false_or (happenings.any Happening.isShutdown)]
    exact hstart.live happenings
  obtain ⟨hbusy, hsessions⟩ := live_counts (s := start) happenings
  refine ⟨hholds.gate, hholds.within, ?_, hholds.active, ?_, ?_, ?_, ?_, ?_, ?_, ?_, ?_⟩
  · rw [hholds.lifecycle]
  · intro id localAddr remoteAddr
    exact ⟨hholds.arrive_fst id localAddr remoteAddr, told_eq _,
      arrive_arrivalStep s id localAddr remoteAddr⟩
  · rw [hbusy]
    exact Nat.zero_add _
  · rw [hsessions]
    exact Nat.zero_add _
  · intro hunlimited
    have hnone : service.settings.slots? = none := by
      rw [Settings.slots?, hunlimited, Option.map_none]
    have hopen : Holds none false start.inService start := hnone ▸ hstart
    exact hopen.arrivals_of_no_gate happenings
  · intro delivered
    exact ⟨endTurningAway_sessions s delivered, endTurningAway_gate s delivered⟩
  · rintro place after (⟨input, rfl⟩ | ⟨left, world, rfl⟩)
    · exact (advance_sessionStep s place input).inService
    · exact (breakOff_sessionStep s place left world).inService
  · intro place session hplace hclosed later
    exact live_ended later hplace hclosed
  · intro hrunning later hlater hroom
    rw [hrunning] at hholds
    exact hholds.arrivals_of_room later hlater hroom

/-- One slot: the second connection is turned away, the third has the slot that the first gave back,
and the fourth comes too late. -/
example :
    let service : Service Unit := { hostname := "mx", settings := { maxConnections := 1 } }
    let arrival : Happening Unit :=
      .input (.arrival ⟨1⟩ ⟨.v4 ⟨192, 0, 2, 9⟩, 25⟩ ⟨.v4 ⟨192, 0, 2, 1⟩, 4001⟩)
    (start service ()).arrivals [arrival, arrival, .input (.session 0 .ended), arrival,
      .input .shutdown, arrival] = [.admitted, .busy, .admitted, .ignored] := by
  decide +kernel

/-- The text that a connection is turned away with. -/
example : busyReply.render = "421 Too busy. Try again later.\r\n" := by decide +kernel

end Server
end MailIntake
