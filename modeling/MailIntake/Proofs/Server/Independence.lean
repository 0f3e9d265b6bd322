import MailIntake.Proofs.Server.Balance
import MailIntake.Proofs.Session.Accounts
import MailIntake.Proofs.Session.Freshness
import MailIntake.Proofs.Session.Twin
/-!
Connections are independent.  All connections of a server share its gate, its counts, its life and
the world of its checkers; but what becomes of a connection that has been admitted depends on
nothing but what happens to itself, where checkers depend on nothing but the transaction they are
given.  It goes the way that it would go as the only one (`live_session_alone`).
-/
namespace MailIntake

open Address

universe u

variable {W : Type u}

/-- What something that happens is to the connection at a place, told as of the only connection
there is. -/
def Happening.own? (place : Nat) : Happening W → Option (Happening W)
  | .input (.session other told) => if other = place then some (.input (.session 0 told)) else none
  | .broken other left world => if other = place then some (.broken 0 left world) else none
  | .input (.arrival _ _ _) | .input (.turnedAway _) | .input .shutdown => none

/-- A shutdown is nothing to any connection. -/
theorem Happening.filterMap_own?_filter (place : Nat) (happenings : List (Happening W)) :
    (happenings.filter fun happening => !happening.isShutdown).filterMap (own? place) =
      happenings.filterMap (own? place) := by
  rw [List.filterMap_filter]
  congr 1
  funext happening
  cases happening with
  | broken => rfl
  | input input =>
      cases input with
      | arrival | turnedAway | session | shutdown => rfl

namespace Server

section Places

variable {s after : Server W} {place : Nat} {session : Session}

/-- A connection stays as it is when another one moves. -/
theorem SessionStep.elsewhere (hmoved : SessionStep s place after) {other : Nat}
    (hne : place ≠ other) : after.sessions[other]? = s.sessions[other]? := by
  cases hmoved with
  | unserved => rfl
  | moved session left world after hplace hopen hafter =>
      rw [hafter, settle_sessions, count_sessions, List.getElem?_set_ne hne]

theorem SessionStep.service (hmoved : SessionStep s place after) : after.service = s.service := by
  cases hmoved with
  | unserved => rfl
  | moved session left world after hplace hopen hafter => simp [hafter]

/-- A connection stays as it is when another one arrives. -/
theorem ArrivalStep.elsewhere {arriving : Session} {arrival : Arrival}
    (harrived : ArrivalStep s arriving arrival after) (hplace : s.sessions[place]? = some session) :
    after.sessions[place]? = some session := by
  obtain ⟨hlt, -⟩ := List.getElem?_eq_some_iff.mp hplace
  cases harrived with
  | ignored => exact hplace
  | busy _ hsessions => rw [hsessions, hplace]
  | admitted _ hsessions => rw [hsessions, List.getElem?_append_left hlt, hplace]

/-- A connection stays as it is when nothing happens to itself. -/
theorem happen_elsewhere {happening : Happening W} (hown : happening.own? place = none)
    (hplace : s.sessions[place]? = some session) :
    (s.happen happening).sessions[place]? = some session := by
  cases happening with
  | broken other left world =>
      have hne : other ≠ place := by simpa [Happening.own?] using hown
      exact ((breakOff_sessionStep s other left world).elsewhere hne).trans hplace
  | input input =>
      cases input with
      | session other input =>
          have hne : other ≠ place := by simpa [Happening.own?] using hown
          exact ((advance_sessionStep s other input).elsewhere hne).trans hplace
      | arrival id localAddr remoteAddr =>
          exact (arrive_arrivalStep s id localAddr remoteAddr).elsewhere hplace
      | turnedAway delivered => rw [happen, step, endTurningAway_sessions, hplace]
      | shutdown => exact hplace

theorem happen_service (s : Server W) (happening : Happening W) :
    (s.happen happening).service = s.service := by
  cases happening with
  | input input => exact step_service s input
  | broken place left world => exact (breakOff_sessionStep s place left world).service

/-- What an input makes of the connection at a place. -/
theorem sessions_advance (hplace : s.sessions[place]? = some session) (input : Input) :
    (s.advance place input).sessions = s.sessions.set place
      (Turn.step s.service { session with world := s.world } input).toSession := by
  cases hclosed : session.isClosed with
  | true =>
      have hphase : session.phase = .closed := by simpa [Session.isClosed] using hclosed
      have hsame : Turn.step s.service { session with world := s.world } input =
          { session with world := s.world } := Turn.step_of_closed hphase input
      obtain ⟨hlt, rfl⟩ := List.getElem?_eq_some_iff.mp hplace
      rw [hsame, List.set_getElem_self]
      simp only [advance, hplace, hclosed, if_true]
  | false => simp [advance, hplace, hclosed]

/-- What breaking off makes of the connection at a place. -/
theorem sessions_breakOff (hplace : s.sessions[place]? = some session) (left : Session)
    (world : W) : (s.breakOff place left world).sessions = s.sessions.set place
      (if session.isClosed then session else { left with phase := .closed }) := by
  cases hclosed : session.isClosed with
  | true =>
      obtain ⟨hlt, rfl⟩ := List.getElem?_eq_some_iff.mp hplace
      rw [if_pos rfl, List.set_getElem_self]
      simp only [breakOff, hplace, hclosed, if_true]
  | false => simp [breakOff, hplace, hclosed]

theorem live_service (s : Server W) (happenings : List (Happening W)) :
    (s.live happenings).service = s.service := by
  induction happenings generalizing s with
  | nil => rfl
  | cons happening later ih => exact (ih (s.happen happening)).trans (happen_service s happening)

theorem live_append (s : Server W) (front back : List (Happening W)) :
    s.live (front ++ back) = (s.live front).live back :=
  List.foldl_append

end Places

/-- One connection on two servers, at a place among others and alone: all that has become of it is
the same. -/
structure SameSession (service : Service W) (f : TransactionId → TransactionId) (place : Nat)
    (s alone : Server W) : Prop where
  service_among : s.service = service
  service_alone : alone.service = service
  twins : ∃ session other, s.sessions[place]? = some session ∧ alone.sessions = [other] ∧
    session.Twin f other

namespace SameSession

variable {service : Service W} {f : TransactionId → TransactionId} {place : Nat}
  {s alone : Server W}

/-- The connection moves on both servers alike. -/
theorem put (h : SameSession service f place s alone) {next next' : Server W}
    (hservice : next.service = s.service) (hservice' : next'.service = alone.service)
    (hput : ∀ session other, s.sessions[place]? = some session →
      alone.sessions[0]? = some other → session.Twin f other →
        ∃ left left', next.sessions = s.sessions.set place left ∧
          next'.sessions = alone.sessions.set 0 left' ∧ left.Twin f left') :
    SameSession service f place next next' := by
  obtain ⟨session, other, hplace, halone, htwin⟩ := h.twins
  obtain ⟨hlt, -⟩ := List.getElem?_eq_some_iff.mp hplace
  have hfirst : alone.sessions[0]? = some other := by rw [halone, List.getElem?_cons_zero]
  obtain ⟨left, left', hnext, hnext', hleft⟩ := hput session other hplace hfirst htwin
  refine ⟨hservice.trans h.service_among, hservice'.trans h.service_alone, left, left', ?_, ?_,
    hleft⟩
  · rw [hnext, List.getElem?_set_self hlt]
  · rw [hnext', halone, List.set_cons_zero]

theorem advance (h : SameSession service f place s alone) (hignores : service.IgnoresWorld)
    (hrelabels : service.Relabels f) (input : Input) :
    SameSession service f place (s.advance place input) (alone.advance 0 input) := by
  refine h.put (step_service s (.session place input)) (step_service alone (.session 0 input)) ?_
  intro session other hplace hfirst htwin
  refine ⟨_, _, sessions_advance hplace input, sessions_advance hfirst input, ?_⟩
  rw [h.service_among, h.service_alone]
  exact htwin.step hignores hrelabels s.world alone.world input

theorem breakOff (h : SameSession service f place s alone) {left : Session}
    (hleft : left.Twin f left) (world : W) :
    SameSession service f place (s.breakOff place left world) (alone.breakOff 0 left world) := by
  refine h.put (happen_service s (.broken place left world))
    (happen_service alone (.broken 0 left world)) ?_
  intro session other hplace hfirst htwin
  have hclosed : other.isClosed = session.isClosed := by
    rw [Session.isClosed, Session.isClosed, htwin.phase]
  refine ⟨_, _, sessions_breakOff hplace left world, sessions_breakOff hfirst left world, ?_⟩
  rw [hclosed]
  split
  · exact htwin
  · exact ⟨hleft.transaction, rfl, hleft.commands, hleft.tally, hleft.journal⟩

/-- Whatever happens, the connection alone is told of what concerns it and of nothing else. -/
theorem happen (h : SameSession service f place s alone) (hignores : service.IgnoresWorld)
    (hrelabels : service.Relabels f) (happening : Happening W)
    (hbroken : ∀ left world, happening = .broken place left world → left.Twin f left) :
    SameSession service f place (s.happen happening)
      (alone.live (happening.own? place).toList) := by
  cases hown : happening.own? place with
  | none =>
      obtain ⟨session, other, hplace, halone, htwin⟩ := h.twins
      exact ⟨(happen_service s happening).trans h.service_among, h.service_alone, session, other,
        happen_elsewhere hown hplace, halone, htwin⟩
  | some own =>
      cases happening with
      | input input =>
          cases input with
          | arrival | turnedAway | shutdown => cases hown
          | session other input =>
              obtain ⟨rfl, rfl⟩ : other = place ∧ Happening.input (.session 0 input) = own := by
                simpa [Happening.own?] using hown
              exact h.advance hignores hrelabels input
      | broken other left world =>
          obtain ⟨rfl, rfl⟩ : other = place ∧ Happening.broken 0 left world = own := by
            simpa [Happening.own?] using hown
          exact h.breakOff (hbroken left world rfl) world

theorem live (h : SameSession service f place s alone) (hignores : service.IgnoresWorld)
    (hrelabels : service.Relabels f) (happenings : List (Happening W))
    (hbroken : ∀ left world, .broken place left world ∈ happenings → left.Twin f left) :
    SameSession service f place (s.live happenings)
      (alone.live (happenings.filterMap (Happening.own? place))) := by
  induction happenings generalizing s alone with
  | nil => exact h
  | cons happening later ih =>
      have hfirst := h.happen hignores hrelabels happening fun left world heq =>
        hbroken left world (heq ▸ List.mem_cons_self)
      have hlater := ih hfirst fun left world hmem =>
        hbroken left world (List.mem_cons_of_mem _ hmem)
      have htold : (happening :: later).filterMap (Happening.own? place) =
          (happening.own? place).toList ++ later.filterMap (Happening.own? place) := by
        cases hown : happening.own? place with
        | none => rw [List.filterMap_cons_none hown]; rfl
        | some own => rw [List.filterMap_cons_some hown]; rfl
      rw [htold, live_append]
      exact hlater

end SameSession

/-- A connection is admitted when there is room and no shutdown has been asked for. -/
theorem Holds.arrive_fst_eq_admitted_iff {s : Server W} {slots? : Option Nat} {asked : Bool}
    {n : Nat} (hholds : Holds slots? asked n s) (id : TransactionId)
    (localAddr remoteAddr : Endpoint) :
    (s.arrive id localAddr remoteAddr).1 = .admitted ↔ asked = false ∧ slots? ≠ some n := by
  rw [hholds.arrive_fst]
  cases asked with
  | true => simp
  | false => simp

/-- A connection that is admitted among others is admitted alone. -/
theorem sameSession_of_admitted {service : Service W} {f : TransactionId → TransactionId}
    {s : Server W} {asked : Bool} (hholds : Holds service.settings.slots? asked s.inService s)
    (hservice : s.service = service) (hignores : service.IgnoresWorld)
    (hrelabels : service.Relabels f) (id : TransactionId) (localAddr remoteAddr : Endpoint)
    (hadmitted : (s.arrive id localAddr remoteAddr).1 = .admitted) (world : W) :
    SameSession service f s.sessions.length (s.arrive id localAddr remoteAddr).2
      ((start service world).arrive (f id) localAddr remoteAddr).2 := by
  have hidle : Holds service.settings.slots? false 0 (start service world) := .start service world
  have hroom : ((start service world).arrive (f id) localAddr remoteAddr).1 = .admitted := by
    obtain ⟨-, hfree⟩ := (hholds.arrive_fst_eq_admitted_iff _ _ _).mp hadmitted
    have hpos := hholds.lt_of_room hfree
    refine (hidle.arrive_fst_eq_admitted_iff _ _ _).mpr ⟨rfl, fun hnone => ?_⟩
    exact Nat.not_lt_zero _ (hpos 0 hnone)
  have harrived := arrive_arrivalStep s id localAddr remoteAddr
  have harrived' := arrive_arrivalStep (start service world) (f id) localAddr remoteAddr
  refine ⟨(step_service s (.arrival id localAddr remoteAddr)).trans hservice,
    step_service (start service world) (.arrival (f id) localAddr remoteAddr),
    s.served id localAddr remoteAddr, (start service world).served (f id) localAddr remoteAddr,
    ?_, ?_, ?_⟩
  · rw [hadmitted] at harrived
    generalize (s.arrive id localAddr remoteAddr).2 = after at harrived ⊢
    cases harrived with
    | admitted _ hsessions => rw [hsessions, List.getElem?_concat_length]
  · rw [hroom] at harrived'
    generalize ((start service world).arrive (f id) localAddr remoteAddr).2 = after at harrived' ⊢
    cases harrived' with
    | admitted _ hsessions => exact hsessions
  · rw [served, hservice]
    exact .start hignores hrelabels id service.hostname localAddr remoteAddr s.world world

section Admitted

variable (service : Service W) (id : TransactionId) (localAddr remoteAddr : Endpoint)

/-- The connections of a server that only ever has one connection, behind all that happens to it. -/
def alone (world : W) (place : Nat) (happenings : List (Happening W)) : List Session :=
  ((start service world).live (.input (.arrival id localAddr remoteAddr) ::
    happenings.filterMap (Happening.own? place))).sessions

variable {service localAddr remoteAddr} (world world' : W) {id} {before : List (Happening W)}

/-- All that becomes of a connection that is admitted among others becomes of it alone, and under
any identifier that checkers do not tell from its own. -/
theorem exists_twins {f : TransactionId → TransactionId} (hignores : service.IgnoresWorld)
    (hrelabels : service.Relabels f) (happenings : List (Happening W)) :
    let earlier := (start service world).live before
    let place := earlier.sessions.length
    (earlier.arrive id localAddr remoteAddr).1 = .admitted →
      (∀ left world, .broken place left world ∈ happenings → left.Twin f left) →
        ∃ session other,
          ((earlier.arrive id localAddr remoteAddr).2.live happenings).sessions[place]? =
            some session ∧
          alone service (f id) localAddr remoteAddr world' place happenings = [other] ∧
          session.Twin f other := by
  intro earlier place hadmitted hbroken
  have hstart : Holds service.settings.slots? false (start service world).inService
      (start service world) := .start service world
  have hservice : earlier.service = service := live_service (start service world) before
  have hfirst := sameSession_of_admitted (hstart.live before) hservice hignores hrelabels id
    localAddr remoteAddr hadmitted world'
  exact (hfirst.live hignores hrelabels happenings hbroken).twins

/-- All that becomes of a connection that is admitted among others becomes of it alone. -/
theorem exists_same (hignores : service.IgnoresWorld) (happenings : List (Happening W)) :
    let earlier := (start service world).live before
    let place := earlier.sessions.length
    (earlier.arrive id localAddr remoteAddr).1 = .admitted →
      ∃ session,
        ((earlier.arrive id localAddr remoteAddr).2.live happenings).sessions[place]? =
          some session ∧
        alone service id localAddr remoteAddr world' place happenings = [session] := by
  intro earlier place hadmitted
  obtain ⟨session, other, hplace, halone, htwin⟩ := exists_twins world world' hignores
    service.relabels_id happenings hadmitted fun left _ _ => Session.twin_id_iff.mpr rfl
  rw [Session.twin_id_iff] at htwin
  exact ⟨session, hplace, htwin ▸ halone⟩

end Admitted

/-- Connections are independent.  Let checkers depend on nothing but the transaction they are given,
and let a connection be admitted after anything has happened to a server.  Whatever happens then to
this connection and to others, whoever else is admitted or turned away and whenever a shutdown is
asked for: all that it has come to, its replies and its stages with their transactions among it, is
what it would have come to by now as the only connection of a server that is never shut down.  The
identifier makes no difference beyond itself, where it makes none to checkers; and a shutdown makes
no difference at all. -/
theorem live_session_alone (service : Service W) (hignores : service.IgnoresWorld)
    (id : TransactionId) (localAddr remoteAddr : Endpoint) (world world' : W)
    (before after : List (Happening W)) :
    let earlier := (start service world).live before
    let place := earlier.sessions.length
    let s := (earlier.arrive id localAddr remoteAddr).2.live after
    let spared := (earlier.arrive id localAddr remoteAddr).2.live
      (after.filter fun happening => !happening.isShutdown)
    (earlier.arrive id localAddr remoteAddr).1 = .admitted →
      ∃ session, s.sessions[place]? = some session ∧ spared.sessions[place]? = some session ∧
        alone service id localAddr remoteAddr world' place after = [session] ∧
        ∀ id', service.Relabels (fun _ => id') →
          (∀ left world, .broken place left world ∉ after) →
            ∃ other, alone service id' localAddr remoteAddr world' place after = [other] ∧
              session.Twin (fun _ => id') other := by
  intro earlier place s spared hadmitted
  obtain ⟨session, hplace, halone⟩ := exists_same world world' hignores after hadmitted
  obtain ⟨other, hspared, halone'⟩ := exists_same world world' hignores
    (after.filter fun happening => !happening.isShutdown) hadmitted
  have hsame : other = session := by
    rw [alone, Happening.filterMap_own?_filter, ← alone, halone] at halone'
    exact (List.singleton_inj.mp halone').symm
  refine ⟨session, hplace, hsame ▸ hspared, halone, fun id' hrelabels hunbroken => ?_⟩
  obtain ⟨_, renamed, hplace', hrenamed, htwin⟩ := exists_twins world world' hignores hrelabels
    after hadmitted fun left world hmem => absurd hmem (hunbroken left world)
  have heq := Option.some.inj (hplace.symm.trans hplace')
  exact ⟨renamed, hrenamed, heq ▸ htwin⟩

end Server

namespace Sample

theorem eq_of_mem_guarded {stage : Stage} {checker : Checker Office}
    (hchecker : checker ∈ guarded.pipelines.checkers stage) :
    checker = nameCheck ∨ ∃ candidate, checker = turnAway candidate := by
  cases stage with
  | helo => exact .inl (List.mem_singleton.mp hchecker)
  | recipient candidate => exact .inr ⟨candidate, List.mem_singleton.mp hchecker⟩
  | connection | sender | data | handler | close => cases hchecker

theorem guarded_ignoresWorld : guarded.IgnoresWorld where
  stages stage checker hchecker := by
    rcases eq_of_mem_guarded hchecker with rfl | ⟨candidate, rfl⟩
    · exact ⟨fun _ _ _ => rfl, fun _ _ _ => rfl⟩
    · exact ⟨fun _ _ _ => rfl, fun _ _ _ => rfl⟩
  authenticator _ hauthenticator := nomatch hauthenticator

theorem guarded_relabels (f : TransactionId → TransactionId) : guarded.Relabels f where
  stages stage checker hchecker := by
    rcases eq_of_mem_guarded hchecker with rfl | ⟨candidate, rfl⟩
    · exact ⟨fun _ _ => rfl, fun _ _ => rfl⟩
    · exact ⟨fun _ _ => rfl, fun _ _ => rfl⟩
  authenticator _ hauthenticator := nomatch hauthenticator

/-- A client sends a message and leaves while another one breaks off and a third one comes too
late, for a shutdown is asked for in the middle of the body. -/
def crossing : List (Happening Office) :=
  [.input (.session 1 (.bytes oneRecipient)),
    .input (.session 0 (.bytes secondThought)),
    .input (.session 1 (.bytes (Text.Utf8.encode "h"))),
    .input .shutdown,
    .input (.arrival ⟨3⟩ place place),
    .broken 0 start.toSession office,
    .input (.session 1 (.bytes (Text.Utf8.encode "i\r\n.\r\nQUIT\r\n")))]

end Sample

namespace Server

/-- A client whose message is taken over behind a shutdown is served like one that is alone. -/
theorem live_session_alone_crossing :
    let earlier := (start Sample.guarded Sample.office).live
      [.input (.arrival ⟨1⟩ Sample.place Sample.place)]
    let s := (earlier.arrive ⟨2⟩ Sample.place Sample.place).2.live Sample.crossing
    ∃ session, s.sessions[1]? = some session ∧ session.isClosed ∧ session.tally.messages = 1 ∧
      alone Sample.guarded ⟨2⟩ Sample.place Sample.place Sample.office 1 Sample.crossing =
        [session] ∧
      ∃ other, alone Sample.guarded ⟨9⟩ Sample.place Sample.place Sample.office 1
          Sample.crossing = [other] ∧ session.Twin (fun _ => ⟨9⟩) other := by
  intro earlier s
  have hadmitted : (earlier.arrive ⟨2⟩ Sample.place Sample.place).1 = .admitted := by
    decide +kernel
  obtain ⟨session, hplace, -, halone, htwins⟩ := live_session_alone Sample.guarded
    Sample.guarded_ignoresWorld ⟨2⟩ Sample.place Sample.place Sample.office Sample.office
    [.input (.arrival ⟨1⟩ Sample.place Sample.place)] Sample.crossing hadmitted
  have hended : s.sessions[1]?.map (fun session => (session.isClosed, session.tally.messages)) =
      some (true, 1) := by
    decide +kernel
  have hsession : s.sessions[1]? = some session := hplace
  rw [hsession, Option.map_some, Option.some.injEq, Prod.mk.injEq] at hended
  have hsecond : earlier.sessions.length = 1 := by decide +kernel
  refine ⟨session, hsession, hended.1, hended.2, halone,
    htwins ⟨9⟩ (Sample.guarded_relabels _) fun left world => ?_⟩
  show .broken earlier.sessions.length left world ∉ Sample.crossing
  rw [hsecond]
  simp [Sample.crossing]

end Server
end MailIntake
