import MailIntake.Proofs.Session.TurnedDown
/-!
What it takes for two connections to go the same way.  A connection is made of few kinds of steps,
and what it does next depends on its protocol state, on the message at hand and on what is read, and
where a proxy may speak on whether a command has been carried out.  A relation that sees all of this
and is kept by each kind of step is kept by everything that can happen (`Linked.run`).
-/
namespace MailIntake

universe u

variable {W : Type u}

def farewell (id : TransactionId) : String :=
  "OK, bye, see you soon! (transaction " ++ id.render ++ ")"

namespace Turn

/-- A relation that sees what a connection acts on, and is kept by the steps that everything else is
made of. -/
structure Simulation (service : Service W) (related : Turn W → Turn W → Prop) : Prop where
  phase : ∀ {t t'}, related t t' → t.phase = t'.phase
  own : ∀ {t t'}, related t t' → t.transaction.own = t'.transaction.own
  first : ∀ {t t'}, related t t' → service.settings.enableProxyProtocol = true →
    (t.commands = 0 ↔ t'.commands = 0)
  note : ∀ {t t'}, related t t' → ∀ e, (∀ stage tx, e ≠ .stage stage tx) →
    related (t.note e) (t'.note e)
  began : ∀ {t t'}, related t t' → ∀ stage,
    related (t.note (.stage stage t.transaction)) (t'.note (.stage stage t'.transaction))
  asked : ∀ {t t'}, related t t' → ∀ stage, ∀ checker ∈ service.pipelines.checkers stage,
    ∀ place, (checker t.transaction t.world).refusal = (checker t'.transaction t'.world).refusal ∧
      related (t.asked stage place checker) (t'.asked stage place checker)
  questioned : ∀ {t t'}, related t t' → ∀ authenticator,
    service.authenticator = some authenticator → ∀ username password,
      (authenticator username password t.transaction t.world).refusal =
          (authenticator username password t'.transaction t'.world).refusal ∧
        related (t.questioned authenticator username password)
          (t'.questioned authenticator username password)
  mapPeer : ∀ {t t'}, related t t' → ∀ f, related (t.mapPeer f) (t'.mapPeer f)
  mapEnvelope : ∀ {t t'}, related t t' → ∀ f, related (t.mapEnvelope f) (t'.mapEnvelope f)
  mapMetadata : ∀ {t t'}, related t t' → ∀ f : Metadata → Metadata,
    related (t.mapTransaction fun tx => tx.withMetadata (f tx.metadata))
      (t'.mapTransaction fun tx => tx.withMetadata (f tx.metadata))
  finish : ∀ {t t'}, related t t' →
    related (t.mapTransaction fun tx => { tx with shared := tx.finish })
      (t'.mapTransaction fun tx => { tx with shared := tx.finish })
  countRead : ∀ {t t'}, related t t' → ∀ bytes, related (t.countRead bytes) (t'.countRead bytes)
  countMessage : ∀ {t t'}, related t t' → related t.countMessage t'.countMessage
  countCommand : ∀ {t t'}, related t t' → related t.countCommand t'.countCommand
  inPhase : ∀ {t t'}, related t t' → ∀ phase, related (t.inPhase phase) (t'.inPhase phase)
  reply : ∀ {t t'}, related t t' → ∀ code message,
    related (t.reply code message) (t'.reply code message)
  farewell : ∀ {t t'}, related t t' →
    related (t.reply 221 (MailIntake.farewell t.transaction.shared.id))
      (t'.reply 221 (MailIntake.farewell t'.transaction.shared.id))

/-- Two connections in a relation that all steps keep. -/
structure Linked (service : Service W) (related : Turn W → Turn W → Prop) (t t' : Turn W) :
    Prop where
  simulation : Simulation service related
  related : related t t'

/-- What keeps a client from naming a sender depends on nothing that is shared. -/
theorem senderObstacle_congr (service : Service W) {tx tx' : Transaction}
    (hown : tx.own = tx'.own) : senderObstacle service tx = senderObstacle service tx' := by
  obtain ⟨shared, peer, envelope⟩ := tx
  obtain ⟨shared', peer', envelope'⟩ := tx'
  cases hown
  rfl

theorem authObstacle_congr {tx tx' : Transaction} (hown : tx.own = tx'.own) :
    authObstacle tx = authObstacle tx' := by
  obtain ⟨shared, peer, envelope⟩ := tx
  obtain ⟨shared', peer', envelope'⟩ := tx'
  cases hown
  rfl

namespace Linked

section Steps

variable {service : Service W} {related : Turn W → Turn W → Prop} {t t' : Turn W}

theorem phase (h : Linked service related t t') : t.phase = t'.phase :=
  h.simulation.phase h.related

theorem own (h : Linked service related t t') : t.transaction.own = t'.transaction.own :=
  h.simulation.own h.related

theorem peer (h : Linked service related t t') : t.transaction.peer = t'.transaction.peer :=
  congrArg Prod.fst h.own

theorem envelope (h : Linked service related t t') :
    t.transaction.envelope = t'.transaction.envelope :=
  congrArg Prod.snd h.own

theorem first (h : Linked service related t t')
    (henabled : service.settings.enableProxyProtocol = true) : t.commands = 0 ↔ t'.commands = 0 :=
  h.simulation.first h.related henabled

theorem note (h : Linked service related t t') (e : Event) (he : ∀ stage tx, e ≠ .stage stage tx) :
    Linked service related (t.note e) (t'.note e) :=
  ⟨h.simulation, h.simulation.note h.related e he⟩

theorem mapPeer (h : Linked service related t t') (f : Peer → Peer) :
    Linked service related (t.mapPeer f) (t'.mapPeer f) :=
  ⟨h.simulation, h.simulation.mapPeer h.related f⟩

theorem mapEnvelope (h : Linked service related t t') (f : Envelope → Envelope) :
    Linked service related (t.mapEnvelope f) (t'.mapEnvelope f) :=
  ⟨h.simulation, h.simulation.mapEnvelope h.related f⟩

theorem reward (h : Linked service related t t') (amount : Int) :
    Linked service related (t.reward amount) (t'.reward amount) :=
  ⟨h.simulation, h.simulation.mapMetadata h.related fun m => m.reward amount⟩

theorem penalize (h : Linked service related t t') (amount : Int) :
    Linked service related (t.penalize amount) (t'.penalize amount) :=
  ⟨h.simulation, h.simulation.mapMetadata h.related fun m => m.penalize amount⟩

theorem resetEnvelope (h : Linked service related t t') :
    Linked service related t.resetEnvelope t'.resetEnvelope :=
  h.mapEnvelope fun _ => {}

theorem hold (h : Linked service related t t') (body : List UInt8) :
    Linked service related (t.hold body) (t'.hold body) :=
  h.mapEnvelope fun e => { e with body := body, headers := Header.ofMessage body }

theorem countRead (h : Linked service related t t') (bytes : Nat) :
    Linked service related (t.countRead bytes) (t'.countRead bytes) :=
  ⟨h.simulation, h.simulation.countRead h.related bytes⟩

theorem countMessage (h : Linked service related t t') :
    Linked service related t.countMessage t'.countMessage :=
  ⟨h.simulation, h.simulation.countMessage h.related⟩

theorem reply (h : Linked service related t t') (code : UInt16) (message : String) :
    Linked service related (t.reply code message) (t'.reply code message) :=
  ⟨h.simulation, h.simulation.reply h.related code message⟩

theorem refuse (h : Linked service related t t') (cost : Int) (code : UInt16) (message : String) :
    Linked service related (t.refuse cost code message) (t'.refuse cost code message) :=
  (h.penalize cost).reply code message

theorem replyRefusal (h : Linked service related t t') (r : Refusal) :
    Linked service related (t.replyRefusal r) (t'.replyRefusal r) :=
  h.reply r.code r.message

theorem inPhase (h : Linked service related t t') (phase : Phase) :
    Linked service related (t.inPhase phase) (t'.inPhase phase) :=
  ⟨h.simulation, h.simulation.inPhase h.related phase⟩

theorem countCommand (h : Linked service related t t') :
    Linked service related t.countCommand t'.countCommand :=
  ⟨h.simulation, h.simulation.countCommand h.related⟩

theorem conclude (h : Linked service related t t') :
    Linked service related t.conclude t'.conclude :=
  (h.inPhase (.command {})).countCommand

theorem garbled (h : Linked service related t t') (e : Sasl.Error) :
    Linked service related (t.garbled e) (t'.garbled e) :=
  (h.refuse _ _ _).conclude

theorem challenge (h : Linked service related t t') (step : AuthStep) :
    Linked service related (t.challenge step) (t'.challenge step) :=
  (h.reply 334 _).inPhase (.response step {})

theorem passByte (h : Linked service related t t') (phase : Phase) :
    Linked service related (t.passByte phase) (t'.passByte phase) :=
  (h.countRead 1).inPhase phase

theorem lookUpNames (h : Linked service related t t') :
    Linked service related (t.lookUpNames service) (t'.lookUpNames service) :=
  h.mapPeer fun p => { p with ptrs := namesOf service p.remoteAddr.ip }

theorem greet (h : Linked service related t t') :
    Linked service related (t.greet service) (t'.greet service) :=
  h.reply 220 _

/-- Checkers that are asked one after another. -/
theorem check (stage : Stage) {checkers : List (Checker W)}
    (hcheckers : ∀ checker ∈ checkers, checker ∈ service.pipelines.checkers stage) (place : Nat)
    (h : Linked service related t t') :
    ∃ after after' refusal, Turn.check stage place checkers t = (after, refusal) ∧
      Turn.check stage place checkers t' = (after', refusal) ∧
      Linked service related after after' := by
  induction checkers generalizing place t t' with
  | nil => exact ⟨t, t', none, rfl, rfl, h⟩
  | cons checker more ih =>
      obtain ⟨hrefusal, hrelated⟩ := h.simulation.asked h.related stage checker
        (hcheckers checker List.mem_cons_self) place
      have hasked : Linked service related (t.asked stage place checker)
          (t'.asked stage place checker) := ⟨h.simulation, hrelated⟩
      cases hverdict : (checker t.transaction t.world).refusal with
      | none =>
          rw [check_cons_none stage place more hverdict,
            check_cons_none stage place more (hrefusal ▸ hverdict)]
          exact ih (fun other hother => hcheckers other (List.mem_cons_of_mem _ hother))
            (place + 1) hasked
      | some r =>
          rw [check_cons_some stage place more hverdict,
            check_cons_some stage place more (hrefusal ▸ hverdict)]
          exact ⟨_, _, some r, rfl, rfl, hasked⟩

end Steps

section Commands

variable {service : Service W} {related : Turn W → Turn W → Prop} {t t' : Turn W}

theorem runStage (stage : Stage) (h : Linked service related t t') :
    ∃ after after' refusal, t.runStage service stage = (after, refusal) ∧
      t'.runStage service stage = (after', refusal) ∧ Linked service related after after' :=
  check stage (fun _ hchecker => hchecker) 0 ⟨h.simulation, h.simulation.began h.related stage⟩

theorem close (h : Linked service related t t') :
    Linked service related (t.close service) (t'.close service) := by
  obtain ⟨mid, mid', refusal, hrun, hrun', hmid⟩ := h.runStage .close
  rw [close_eq service t hrun, close_eq service t' hrun']
  have hfinished : Linked service related
      (mid.mapTransaction fun tx => { tx with shared := tx.finish })
      (mid'.mapTransaction fun tx => { tx with shared := tx.finish }) :=
    ⟨hmid.simulation, hmid.simulation.finish hmid.related⟩
  exact hfinished.inPhase .closed

theorem helo (h : Linked service related t t') (protocol : Protocol)
    (line : CommandLine) :
    Linked service related (t.helo service protocol line)
      (t'.helo service protocol line) := by
  rw [Turn.helo, Turn.helo]
  cases line.argument? with
  | none => exact (h.refuse _ _ _).conclude
  | some name =>
      obtain ⟨mid, mid', refusal, hrun, hrun', hmid⟩ := (h.mapPeer fun p =>
        { p with helo := some name, protocol := protocol }).runStage .helo
      simp only [hrun, hrun']
      cases refusal with
      | none =>
          have hrewarded := hmid.resetEnvelope.reward Karma.commandExecuted
          have htext : greetingText service protocol
              (mid.resetEnvelope.reward Karma.commandExecuted) =
                greetingText service protocol
                  (mid'.resetEnvelope.reward Karma.commandExecuted) := by
            cases protocol with
            | smtp => rfl
            | esmtp => rw [greetingText, greetingText, extensions, extensions, hrewarded.peer]
          simp only [htext]
          exact (hrewarded.reply 250 _).conclude
      | some r =>
          rw [h.peer]
          exact ((hmid.mapPeer _).replyRefusal r).conclude

theorem mail (h : Linked service related t t') (line : CommandLine) :
    Linked service related (t.mail service line) (t'.mail service line) := by
  simp only [Turn.mail, senderObstacle_congr service h.own]
  split
  · exact (h.refuse _ _ _).conclude
  · split
    · exact (h.refuse _ _ _).conclude
    · split
      · exact (h.refuse _ _ _).conclude
      · next sender _ =>
          split
          · exact (h.refuse _ _ _).conclude
          · obtain ⟨mid, mid', refusal, hrun, hrun', hmid⟩ := (h.mapEnvelope fun e =>
              { e with sender := some sender }).runStage .sender
            simp only [proposeSender, hrun, hrun']
            cases refusal with
            | none => exact ((hmid.reward _).reply _ _).conclude
            | some r => exact ((hmid.mapEnvelope _).replyRefusal r).conclude

theorem rcpt (h : Linked service related t t') (line : CommandLine) :
    Linked service related (t.rcpt service line) (t'.rcpt service line) := by
  rw [Turn.rcpt, Turn.rcpt, h.envelope]
  split
  · exact (h.refuse _ _ _).conclude
  · split
    · exact (h.refuse _ _ _).conclude
    · split
      · exact (h.refuse _ _ _).conclude
      · split
        · exact (h.refuse _ _ _).conclude
        · next recipient _ =>
            obtain ⟨mid, mid', refusal, hrun, hrun', hmid⟩ :=
              h.runStage (.recipient recipient)
            simp only [proposeRecipient, hrun, hrun']
            cases refusal with
            | none =>
                simp only [hmid.envelope]
                split
                · exact (((hmid.reward _).mapEnvelope _).reply _ _).conclude
                · exact ((hmid.mapEnvelope _).reply _ _).conclude
            | some r => exact ((hmid.penalize _).replyRefusal r).conclude

theorem data (h : Linked service related t t') :
    Linked service related (t.data service) (t'.data service) := by
  rw [Turn.data, Turn.data, h.envelope]
  split
  · exact (h.refuse _ _ _).conclude
  · split
    · exact (h.refuse _ _ _).conclude
    · exact (h.reply _ _).inPhase _

theorem quit (h : Linked service related t t') :
    Linked service related (t.quit service) (t'.quit service) := by
  have hbye : Linked service related (t.reply 221 (farewell t.transaction.shared.id))
      (t'.reply 221 (farewell t'.transaction.shared.id)) :=
    ⟨h.simulation, h.simulation.farewell h.related⟩
  exact hbye.countCommand.close

theorem startTls (h : Linked service related t t') :
    Linked service related (t.startTls service) (t'.startTls service) := by
  rw [Turn.startTls, Turn.startTls, h.peer]
  split
  · exact (h.refuse _ _ _).conclude
  · split
    · exact (h.refuse _ _ _).conclude
    · exact (h.reply _ _).inPhase .handshake

theorem judge (h : Linked service related t t') (username password : String) :
    Linked service related (t.judge service username password)
      (t'.judge service username password) := by
  rw [Turn.judge, Turn.judge]
  cases hauthenticator : service.authenticator with
  | none => exact (h.refuse _ _ _).conclude
  | some authenticator =>
      obtain ⟨hrefusal, hrelated⟩ :=
        h.simulation.questioned h.related authenticator hauthenticator username password
      have hasked : Linked service related (t.questioned authenticator username password)
          (t'.questioned authenticator username password) := ⟨h.simulation, hrelated⟩
      simp only [questioned, ← hrefusal] at hasked
      simp only [← hrefusal]
      cases hverdict : (authenticator username password t.transaction t.world).refusal with
      | none =>
          rw [hverdict] at hasked
          have hsigned := hasked.mapPeer fun p =>
            { p with username := some username, password := some password }
          exact (hsigned.reply 235 _).conclude
      | some r =>
          rw [hverdict] at hasked
          exact ((hasked.penalize _).replyRefusal r).conclude

theorem respond (h : Linked service related t t') (step : AuthStep)
    (response : String) :
    Linked service related (t.respond service step response)
      (t'.respond service step response) := by
  cases step with
  | credentials =>
      rw [Turn.respond, Turn.respond]
      split
      · exact h.garbled _
      · exact h.judge _ _
  | username =>
      rw [Turn.respond, Turn.respond]
      split
      · exact h.garbled _
      · exact h.challenge _
  | password username =>
      rw [Turn.respond, Turn.respond]
      split
      · exact h.garbled _
      · exact h.judge _ _

theorem exchange (h : Linked service related t t') (mechanism : Sasl.Mechanism)
    (initial : Option String) :
    Linked service related (t.exchange service mechanism initial)
      (t'.exchange service mechanism initial) := by
  cases mechanism with
  | plain =>
      cases initial with
      | none =>
          simp only [Turn.exchange]
          exact h.challenge .credentials
      | some response =>
          simp only [Turn.exchange]
          split
          · exact h.challenge .credentials
          · exact h.respond .credentials response
  | login =>
      cases initial with
      | none =>
          simp only [Turn.exchange]
          exact h.challenge .username
      | some response =>
          simp only [Turn.exchange]
          exact h.respond .username response

theorem auth (h : Linked service related t t') (line : CommandLine) :
    Linked service related (t.auth service line) (t'.auth service line) := by
  simp only [Turn.auth, authObstacle_congr h.own]
  split
  · exact (h.refuse _ _ _).conclude
  · split
    · exact (h.refuse _ _ _).conclude
    · split
      · exact (h.refuse _ _ _).conclude
      · split
        · exact (h.reply _ _).conclude
        · exact h.exchange _ _

theorem takeResponse (h : Linked service related t t') (step : AuthStep)
    (line : Line) :
    Linked service related (t.takeResponse service step line)
      (t'.takeResponse service step line) := by
  cases line with
  | tooLong => exact h.garbled .malformed
  | text text =>
      by_cases hcancel : Text.trim text = "*"
      · simp only [Turn.takeResponse, if_pos hcancel]
        exact (h.reply _ _).conclude
      · simp only [Turn.takeResponse, if_neg hcancel]
        exact h.respond step text

theorem proxy (h : Linked service related t t') (line : CommandLine) :
    Linked service related (t.proxy service line) (t'.proxy service line) := by
  rw [Turn.proxy, Turn.proxy]
  by_cases henabled : service.settings.enableProxyProtocol = true
  · simp only [henabled, not_true_eq_false, if_false, Nat.pos_iff_ne_zero, ne_eq, h.first henabled]
    split
    · exact (h.refuse _ _ _).conclude
    · split
      · exact (h.refuse _ _ _).conclude
      · next header _ =>
          exact ((h.mapPeer fun p =>
            { p with remoteAddr := header.source }).lookUpNames.greet).conclude
  · simp only [henabled]
    exact (h.reply _ _).conclude

theorem moveTo (h : Linked service related t t') (attributes : XClientAttributes) :
    Linked service related (t.moveTo service attributes)
      (t'.moveTo service attributes) := by
  rw [Turn.moveTo, Turn.moveTo]
  split
  · next ip port _ _ => exact (h.mapPeer fun p => { p with remoteAddr := ⟨ip, port⟩ }).lookUpNames
  · exact h

theorem xclient (h : Linked service related t t') (line : CommandLine) :
    Linked service related (t.xclient service line) (t'.xclient service line) := by
  rw [Turn.xclient, Turn.xclient]
  split
  · exact (h.reply _ _).conclude
  · split
    · exact (h.refuse _ _ _).conclude
    · exact (((h.moveTo _).mapPeer _).greet).conclude

theorem dispatch (h : Linked service related t t') (line : CommandLine) :
    Linked service related (t.dispatch service line) (t'.dispatch service line) := by
  have hnoted := h.note (.command line) (by simp)
  rw [Turn.dispatch, Turn.dispatch]
  cases line.verb? with
  | none => exact (hnoted.refuse _ _ _).conclude
  | some verb =>
      cases verb with
      | helo => exact hnoted.helo .smtp line
      | ehlo => exact hnoted.helo .esmtp line
      | mail => exact hnoted.mail line
      | rcpt => exact hnoted.rcpt line
      | data => exact hnoted.data
      | rset => exact (hnoted.resetEnvelope.reply _ _).conclude
      | noop => exact (hnoted.reply _ _).conclude
      | quit => exact hnoted.quit
      | startTls => exact hnoted.startTls
      | auth => exact hnoted.auth line
      | proxy => exact hnoted.proxy line
      | xclient => exact hnoted.xclient line

theorem takeLine (h : Linked service related t t') (line : Line) :
    Linked service related (t.takeLine service line) (t'.takeLine service line) := by
  cases line with
  | text text => exact h.dispatch (CommandLine.parse text)
  | tooLong => exact ((h.note .overlong (by simp)).refuse _ _ _).inPhase (.command {})

theorem runStages (stages : List Stage) (h : Linked service related t t') :
    ∃ after after' refusal, t.runStages service stages = (after, refusal) ∧
      t'.runStages service stages = (after', refusal) ∧
      Linked service related after after' := by
  induction stages generalizing t t' with
  | nil => exact ⟨t, t', none, rfl, rfl, h⟩
  | cons stage more ih =>
      obtain ⟨mid, mid', refusal, hrun, hrun', hmid⟩ := h.runStage stage
      simp only [Turn.runStages, hrun, hrun']
      cases refusal with
      | none => exact ih hmid
      | some r => exact ⟨mid, mid', some r, rfl, rfl, hmid⟩

theorem endBody (h : Linked service related t t') (outcome : BodyOutcome) :
    Linked service related (t.endBody service outcome)
      (t'.endBody service outcome) := by
  cases outcome with
  | tooBig => exact ((h.penalize _).resetEnvelope.reply _ _).conclude
  | complete body =>
      obtain ⟨mid, mid', refusal, hrun, hrun', hmid⟩ :=
        (h.hold body).runStages [.data, .handler]
      rw [Turn.hold] at hrun hrun'
      simp only [Turn.endBody, takeMessage, hrun, hrun']
      cases refusal with
      | none => exact ((hmid.countMessage.reward _).resetEnvelope.reply _ _).conclude
      | some r => exact (hmid.resetEnvelope.replyRefusal r).conclude

theorem takeByte (h : Linked service related t t') (b : UInt8) :
    Linked service related (t.takeByte service b) (t'.takeByte service b) := by
  rw [Turn.takeByte, Turn.takeByte, ← h.phase]
  have hread := h.countRead 1
  split
  · split
    · exact hread.takeLine _
    · exact h.passByte _
  · split
    · exact hread.takeResponse _ _
    · exact h.passByte _
  · split
    · exact hread.endBody _
    · exact h.passByte _
  · exact h
  · exact h
  · exact h

theorem begin (h : Linked service related t t') :
    Linked service related (t.begin service) (t'.begin service) := by
  obtain ⟨mid, mid', refusal, hrun, hrun', hmid⟩ := h.lookUpNames.runStage .connection
  simp only [Turn.begin, hrun, hrun']
  cases refusal with
  | none => exact hmid.greet.inPhase (.command {})
  | some r => exact (hmid.replyRefusal r).close

theorem endHandshake (h : Linked service related t t') (result : Option Handshake) :
    Linked service related (t.endHandshake service result)
      (t'.endHandshake service result) := by
  simp only [Turn.endHandshake, ← h.phase]
  split
  · exact (h.mapPeer _).begin
  · exact (h.penalize _).close
  · exact (((h.mapPeer _).resetEnvelope.mapPeer _)).conclude
  · exact (h.refuse _ _ _).countCommand.close
  · exact h

/-- A signal leads two connections that agree to the same. -/
theorem heed (h : Linked service related t t') (signal : Signal) :
    Linked service related (t.heed service signal) (t'.heed service signal) := by
  cases signal with
  | byte b => exact h.takeByte b
  | handshake result => exact h.endHandshake result
  | ended =>
      simp only [Turn.heed, endInput, ← h.phase]
      split
      · exact h.endHandshake none
      · exact h.endHandshake none
      · exact h.close
      · exact h.close
      · exact h.close
      · exact h
  | expired =>
      simp only [Turn.heed, expire, ← h.phase]
      split
      · exact (h.reply _ _).close
      · exact (h.reply _ _).close
      · exact h.close
      · exact h.close
      · exact h.close
      · exact h

/-- Inputs lead two connections that agree to the same. -/
theorem run (h : Linked service related t t') (inputs : List Input) :
    Linked service related (t.run service inputs) (t'.run service inputs) := by
  rw [run_eq_heedAll, run_eq_heedAll]
  generalize inputs.flatMap Input.signals = signals
  induction signals generalizing t t' with
  | nil => exact h
  | cons signal signals ih => exact ih (h.heed signal)

end Commands

end Linked
end Turn
end MailIntake
