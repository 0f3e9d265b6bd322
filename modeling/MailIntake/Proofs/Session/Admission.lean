import MailIntake.Office
import MailIntake.Proofs.Dots.BodyEnd
import MailIntake.Proofs.Session.Journal
/-!
What a message has to have before its body is looked at.  The orders in which a client can greet,
encrypt, authenticate, speak for someone else and name senders and recipients do not matter: in
every state a sender stands on a greeting and on whatever else the settings ask for, and recipients
stand on a sender.
-/
namespace MailIntake

universe u

variable {W : Type u}

/-- What of a transaction only the session itself writes. -/
structure Standing where
  peer : Peer
  sender : Option ReversePath
  recipients : List ForwardPath

def Transaction.standing (tx : Transaction) : Standing :=
  ⟨tx.peer, tx.envelope.sender, tx.envelope.recipients⟩

@[simp]
theorem Transaction.standing_reward (tx : Transaction) (amount : Int) :
    (tx.reward amount).standing = tx.standing := rfl

@[simp]
theorem Transaction.standing_penalize (tx : Transaction) (amount : Int) :
    (tx.penalize amount).standing = tx.standing := rfl

@[simp]
theorem Transaction.standing_resetEnvelope (tx : Transaction) :
    tx.resetEnvelope.standing = ⟨tx.peer, none, []⟩ := rfl

/-- Whether a sender is there for good reasons, and recipients for a sender. -/
structure Standing.Orderly (service : Service W) (s : Standing) : Prop where
  greeted : s.sender.isSome → s.peer.helo.isSome
  encrypted : s.sender.isSome → service.settings.requireTls = true → s.peer.encrypted = true
  authenticated : s.sender.isSome → service.authenticator.isSome → s.peer.username.isSome
  bare : s.sender = none → s.recipients = []
  bounded : s.recipients.length ≤ service.settings.maxRecipients.toNat

/-- Whether a body may be looked at. -/
structure Transaction.Admissible (service : Service W) (tx : Transaction) : Prop where
  greeted : tx.peer.helo.isSome
  sender : tx.envelope.sender.isSome
  recipients : 1 ≤ tx.envelope.recipients.length
  bounded : tx.envelope.recipients.length ≤ service.settings.maxRecipients.toNat
  encrypted : service.settings.requireTls = true → tx.peer.encrypted = true
  authenticated : service.authenticator.isSome → tx.peer.username.isSome
  size : tx.envelope.body.length ≤ service.settings.maxMessageSize.toNat

/-- A message without a sender is in order. -/
theorem Standing.orderly_empty (service : Service W) (peer : Peer) :
    Standing.Orderly service ⟨peer, none, []⟩ := by
  constructor
  · simp
  · simp
  · simp
  · simp
  · simp

/-- A user name only helps. -/
theorem Standing.Orderly.signIn {service : Service W} {s : Standing} (horderly : s.Orderly service)
    (username password : String) :
    Standing.Orderly service
      { s with peer := { s.peer with username := some username, password := some password } } where
  greeted := horderly.greeted
  encrypted := horderly.encrypted
  authenticated _ _ := rfl
  bare := horderly.bare
  bounded := horderly.bounded

/-- Encryption only helps. -/
theorem Standing.Orderly.encrypt {service : Service W} {s : Standing} (horderly : s.Orderly service)
    (h : Turn.Handshake) :
    Standing.Orderly service
      { s with peer :=
        { s.peer with secured := h.secured, tls := some h.info, encrypted := true } } where
  greeted := horderly.greeted
  encrypted _ _ := rfl
  authenticated := horderly.authenticated
  bare := horderly.bare
  bounded := horderly.bounded

/-- A client that is elsewhere is in no worse order. -/
theorem Standing.Orderly.relocate {service : Service W} {s : Standing}
    (horderly : s.Orderly service) (address : Address.Endpoint) (ptrs : List String) :
    Standing.Orderly service { s with peer := { s.peer with remoteAddr := address, ptrs } } where
  greeted := horderly.greeted
  encrypted := horderly.encrypted
  authenticated := horderly.authenticated
  bare := horderly.bare
  bounded := horderly.bounded

/-- A trusted client can change a name and a user name, and cannot take them away. -/
theorem Standing.Orderly.withAttributes {service : Service W} {s : Standing}
    (horderly : s.Orderly service) (attributes : XClientAttributes) :
    Standing.Orderly service { s with peer := Turn.withAttributes attributes s.peer } where
  greeted hsender := by
    have hgreeted := horderly.greeted hsender
    cases hhelo : attributes.helo with
    | none => simpa [Turn.withAttributes, hhelo] using hgreeted
    | some name => simp [Turn.withAttributes, hhelo]
  encrypted := horderly.encrypted
  authenticated hsender hauthenticator := by
    have hauthenticated := horderly.authenticated hsender hauthenticator
    cases hlogin : attributes.login with
    | none => simpa [Turn.withAttributes, hlogin] using hauthenticated
    | some name => simp [Turn.withAttributes, hlogin]
  bare := horderly.bare
  bounded := horderly.bounded

/-- A recipient may join where there is a sender and room. -/
theorem Standing.Orderly.addRecipient {service : Service W} {s : Standing}
    (horderly : s.Orderly service) (hsender : s.sender.isSome)
    (hroom : s.recipients.length < service.settings.maxRecipients.toNat)
    (recipient : ForwardPath) :
    Standing.Orderly service { s with recipients := s.recipients ++ [recipient] } where
  greeted := horderly.greeted
  encrypted := horderly.encrypted
  authenticated := horderly.authenticated
  bare hnone := by
    rw [Option.isSome_iff_ne_none] at hsender
    exact absurd hnone hsender
  bounded := by
    rw [List.length_append, List.length_singleton]
    exact hroom

/-- The envelope with which a body is read, and the part of the body that is kept. -/
structure Transaction.Awaits (service : Service W) (tx : Transaction) (d : DotDecoder) : Prop where
  sender : tx.envelope.sender.isSome
  recipients : tx.envelope.recipients ≠ []
  limit : d.limit = service.settings.maxMessageSize.toNat
  size : d.body.size ≤ d.limit

namespace Turn

/-- The invariant of a connection. -/
structure Sound (service : Service W) (t : Turn W) : Prop where
  orderly : t.transaction.standing.Orderly service
  awaits : ∀ d, t.phase = .body d → t.transaction.Awaits service d

variable {service : Service W} {t after : Turn W}

theorem standing_of_runStage {stage : Stage} {refusal : Option Refusal}
    (hkeeps : service.Keeps fun tx _ => tx.standing)
    (hrun : t.runStage service stage = (after, refusal)) :
    after.transaction.standing = t.transaction.standing :=
  seen_of_runStage (hkeeps.stages stage) hrun

/-- A turn that waits for something other than a body. -/
theorem Sound.of_orderly (horderly : t.transaction.standing.Orderly service)
    (hphase : ∀ d, t.phase ≠ .body d) : Sound service t where
  orderly := horderly
  awaits d hd := absurd hd (hphase d)

theorem Sound.close (hkeeps : service.Keeps fun tx _ => tx.standing)
    (horderly : t.transaction.standing.Orderly service) : Sound service (t.close service) := by
  cases hrun : t.runStage service .close with
  | mk after refusal =>
      rw [close_eq service t hrun]
      refine .of_orderly ?_ (by simp)
      rw [inPhase_transaction]
      change after.transaction.standing.Orderly service
      rw [standing_of_runStage hkeeps hrun]
      exact horderly

/-- A reply with which a command or a message ends. -/
theorem Sound.answered (horderly : t.transaction.standing.Orderly service) (code : UInt16)
    (message : String) : Sound service (t.reply code message).conclude := by
  refine .of_orderly ?_ (by simp)
  rwa [conclude_transaction, reply_transaction]

/-- Behind a body the envelope is empty. -/
theorem Sound.emptied (t : Turn W) (code : UInt16) (message : String) :
    Sound service (t.resetEnvelope.reply code message).conclude :=
  .answered (Standing.orderly_empty service t.transaction.peer) code message

theorem Sound.exchanged (hkeeps : service.Keeps fun tx _ => tx.standing)
    (horderly : t.transaction.standing.Orderly service) (hexchanged : Exchanged service t after) :
    Sound service after := by
  cases hexchanged with
  | refused cost code message hcode => exact .answered (t := t.penalize cost) horderly code message
  | challenged step =>
      refine .of_orderly ?_ (by simp)
      rw [challenge_transaction]
      exact horderly
  | rejected authenticator username password r hauthenticator hverdict =>
      have hstanding := hkeeps.authenticator authenticator hauthenticator username password
        t.transaction t.world
      refine .answered ?_ _ _
      simp only [penalize_eq, mapTransaction_transaction, questioned_transaction,
        Transaction.standing_penalize, hstanding]
      exact horderly
  | accepted authenticator username password hauthenticator hverdict =>
      have hstanding := hkeeps.authenticator authenticator hauthenticator username password
        t.transaction t.world
      rw [← hstanding] at horderly
      exact .answered (horderly.signIn username password) _ _

theorem senderObstacle_eq_none {tx : Transaction} (hobstacle : senderObstacle service tx = none) :
    tx.peer.helo.isSome ∧ (service.settings.requireTls = true → tx.peer.encrypted = true) ∧
      (service.authenticator.isSome → tx.peer.username.isSome) ∧ tx.envelope.sender = none := by
  rw [senderObstacle] at hobstacle
  split at hobstacle
  · cases hobstacle
  · next hgreeted =>
      split at hobstacle
      · cases hobstacle
      · next hencrypted =>
          split at hobstacle
          · cases hobstacle
          · next hauthenticated =>
              split at hobstacle
              · cases hobstacle
              · next hsender =>
                  refine ⟨?_, ?_, ?_, ?_⟩
                  · simpa [Option.isSome_iff_ne_none] using hgreeted
                  · intro hrequired
                    simpa [hrequired] using hencrypted
                  · intro hsome
                    simpa [hsome, Transaction.isAuthenticated, Option.isSome_iff_ne_none] using
                      hauthenticated
                  · simpa using hsender

/-- A recipient that passed joins the others. -/
theorem standing_welcome (recipient : ForwardPath)
    (hstanding : after.transaction.standing = t.transaction.standing) :
    ((if after.transaction.envelope.recipients.isEmpty then
      after.reward Karma.commandExecuted else after).addRecipient
        recipient).transaction.standing =
      { t.transaction.standing with
        recipients := t.transaction.standing.recipients ++ [recipient] } := by
  rw [← hstanding]
  split
  · rfl
  · rfl

theorem orderly_moveTo (horderly : t.transaction.standing.Orderly service)
    (attributes : XClientAttributes) :
    (t.moveTo service attributes).transaction.standing.Orderly service := by
  rw [moveTo]
  split
  · exact horderly.relocate _ _
  · exact horderly

/-- A greeting that is taken back leaves no trace. -/
theorem standing_restoreGreeting {protocol : Protocol} {name : String}
    (hstanding : after.transaction.standing = (t.introduce protocol name).transaction.standing) :
    (after.restoreGreeting t.transaction.peer).transaction.standing =
      t.transaction.standing := by
  have hpeer : after.transaction.peer = (t.introduce protocol name).transaction.peer :=
    congrArg Standing.peer hstanding
  have hsender : after.transaction.envelope.sender = t.transaction.envelope.sender :=
    congrArg Standing.sender hstanding
  have hrecipients : after.transaction.envelope.recipients = t.transaction.envelope.recipients :=
    congrArg Standing.recipients hstanding
  simp only [restoreGreeting, mapPeer_eq, mapTransaction_transaction, Transaction.standing, hpeer,
    hsender, hrecipients, introduce]

theorem Sound.handled {line : CommandLine} (hkeeps : service.Keeps fun tx _ => tx.standing)
    (horderly : t.transaction.standing.Orderly service)
    (hhandled : Handled service line t after) : Sound service after := by
  cases hhandled with
  | refused cost code message hcode hverb =>
      exact .answered (t := t.penalize cost) horderly code message
  | idle hverb => exact .answered horderly _ _
  | reset hverb => exact .emptied t _ _
  | greeted protocol name mid hverb hname hrun =>
      exact .answered (t := mid.resetEnvelope.reward Karma.commandExecuted)
        (Standing.orderly_empty service mid.transaction.peer) _ _
  | greetingRefused protocol name mid r hverb hname hrun =>
      refine .answered ?_ _ _
      rw [standing_restoreGreeting (standing_of_runStage hkeeps hrun)]
      exact horderly
  | senderAccepted path sender mid hverb hobstacle hpath hparse hrun =>
      have hstanding := standing_of_runStage hkeeps hrun
      obtain ⟨hgreeted, hencrypted, hauthenticated, -⟩ := senderObstacle_eq_none hobstacle
      refine .answered ?_ _ _
      rw [reward_eq, mapTransaction_transaction, Transaction.standing_reward, hstanding]
      constructor
      · exact fun _ => hgreeted
      · exact fun _ => hencrypted
      · exact fun _ => hauthenticated
      · intro hnone
        cases hnone
      · exact horderly.bounded
  | senderRefused path sender mid r hverb hobstacle hpath hparse hrun =>
      have hstanding := standing_of_runStage hkeeps hrun
      obtain ⟨-, -, -, hsender⟩ := senderObstacle_eq_none hobstacle
      have hrecipients : mid.transaction.envelope.recipients = [] :=
        (congrArg Standing.recipients hstanding).trans (horderly.bare hsender)
      have hempty : (mid.setSender none).transaction.standing =
          ⟨mid.transaction.peer, none, []⟩ := by
        simp [setSender, Transaction.standing, hrecipients]
      refine .answered ?_ _ _
      rw [hempty]
      exact Standing.orderly_empty service mid.transaction.peer
  | recipientAccepted path recipient mid hverb hsender hroom hpath hparse hrun =>
      refine .answered ?_ _ _
      rw [standing_welcome recipient (standing_of_runStage hkeeps hrun)]
      exact horderly.addRecipient hsender hroom recipient
  | recipientRefused path recipient mid r hverb hsender hpath hparse hrun =>
      refine .answered ?_ _ _
      rw [penalize_eq, mapTransaction_transaction, Transaction.standing_penalize,
        standing_of_runStage hkeeps hrun]
      exact horderly
  | bodyAwaited hverb hsender hrecipients =>
      refine ⟨?_, ?_⟩
      · rw [inPhase_transaction, reply_transaction]
        exact horderly
      · rintro d hd
        cases hd
        rw [inPhase_transaction, reply_transaction]
        exact ⟨hsender, hrecipients, rfl, Nat.zero_le _⟩
  | quit message hverb =>
      refine .close hkeeps ?_
      rw [countCommand_transaction, reply_transaction]
      exact horderly
  | handshakeAwaited hverb hplain hoffers =>
      refine .of_orderly ?_ (by simp)
      rw [inPhase_transaction, reply_transaction]
      exact horderly
  | auth _ hverb hobstacle hexchanged => exact .exchanged hkeeps horderly hexchanged
  | proxied header hverb henabled hfirst hparse =>
      exact .answered (t := t.relocate service header.source)
        (horderly.relocate header.source _) _ _
  | xclient attributes hverb henabled hparse =>
      exact .answered (t := (t.moveTo service attributes).mapPeer (Turn.withAttributes attributes))
        ((orderly_moveTo horderly attributes).withAttributes attributes) _ _

theorem Sound.begun (hkeeps : service.Keeps fun tx _ => tx.standing)
    (horderly : t.transaction.standing.Orderly service) (hbegun : Begun service t after) :
    Sound service after := by
  have hlooked : (t.lookUpNames service).transaction.standing.Orderly service :=
    horderly.relocate _ _
  cases hbegun with
  | refused mid r hrun =>
      refine .close hkeeps ?_
      rw [replyRefusal_eq, reply_transaction, standing_of_runStage hkeeps hrun]
      exact hlooked
  | greeted mid hrun =>
      refine .of_orderly ?_ (by simp)
      rw [awaitCommand_transaction, greet, reply_transaction, standing_of_runStage hkeeps hrun]
      exact hlooked

theorem Sound.ended {outcome : BodyOutcome} (hended : Ended service t outcome after) :
    Sound service after := by
  cases hended with
  | tooBig => exact .emptied (t.penalize Karma.messageTooBig) _ _
  | bodyRefused body mid r hdata => exact .emptied mid _ _
  | messageRefused body judged mid r hdata hhandler => exact .emptied mid _ _
  | messageAccepted body judged mid hdata hhandler =>
      exact .emptied (mid.countMessage.reward Karma.commandExecuted) _ _

theorem Sound.passed {b : UInt8} {phase : Phase} (hsound : Sound service t)
    (hpasses : Passes b t.phase phase) : Sound service (t.passByte phase) := by
  refine ⟨hsound.orderly, ?_⟩
  rintro next rfl
  generalize hbefore : t.phase = before at hpasses
  cases hpasses with
  | body decoder hb =>
      have hawaits := hsound.awaits decoder hbefore
      refine ⟨hawaits.sender, hawaits.recipients, ?_, ?_⟩
      · rw [DotDecoder.limit_step, hawaits.limit]
      · rw [DotDecoder.limit_step]
        exact DotDecoder.size_step_le hawaits.size b

/-- The invariant is kept by everything that can happen. -/
theorem Sound.move {signal : Signal} (hkeeps : service.Keeps fun tx _ => tx.standing)
    (hmove : Move service t signal after) (hsound : Sound service t) : Sound service after := by
  have horderly := hsound.orderly
  cases hmove with
  | unheard b hphase => exact hsound
  | unasked result hphase => exact hsound
  | finished signal hphase => exact hsound
  | passed b phase hpasses => exact hsound.passed hpasses
  | overlong reader hphase hline =>
      refine .of_orderly ?_ (by simp)
      rw [awaitCommand_transaction, refuse_eq, reply_transaction]
      exact horderly
  | handled reader text _ hphase hline hhandled =>
      exact .handled (t := (t.countRead 1).note _) hkeeps horderly hhandled
  | exchanged step reader _ hphase hexchanged =>
      exact .exchanged (t := t.countRead 1) hkeeps horderly hexchanged
  | bodyEnded b outcome _ hread hended => exact .ended hended
  | opened h _ hphase hbegun => exact .begun hkeeps (horderly.encrypt h) hbegun
  | openingFailed signal hphase hsignal =>
      exact .close (t := t.penalize Karma.handshakeFailed) hkeeps horderly
  | upgraded h hphase => exact .of_orderly (Standing.orderly_empty service _) (by simp [upgraded])
  | upgradeFailed signal hphase hsignal =>
      refine .close hkeeps ?_
      rw [countCommand_transaction, refuse_eq, reply_transaction]
      exact horderly
  | ended hphase => exact .close hkeeps horderly
  | timedOut hphase =>
      refine .close hkeeps ?_
      rw [reply_transaction]
      exact horderly
  | expired hphase => exact .close hkeeps horderly

/-- What a body is looked at with. -/
theorem Sound.admissible {b : UInt8} {body : List UInt8} (hsound : Sound service t)
    (hread : t.BodyRead b (.complete body)) :
    (t.hold body).transaction.Admissible service := by
  obtain ⟨d, hphase, -, hfinish⟩ := hread
  have hawaits := hsound.awaits d hphase
  have horderly := hsound.orderly
  have hsize : body.length ≤ service.settings.maxMessageSize.toNat := by
    rw [DotDecoder.finish] at hfinish
    split at hfinish
    · cases hfinish
    · cases hfinish
      rw [Array.length_toList, ← hawaits.limit]
      exact hawaits.size
  constructor
  · exact horderly.greeted hawaits.sender
  · exact hawaits.sender
  · exact List.length_pos_iff.mpr hawaits.recipients
  · exact horderly.bounded
  · exact horderly.encrypted hawaits.sender
  · exact horderly.authenticated hawaits.sender
  · exact hsize

variable (service) (id : TransactionId) (serverHostname : String)
  (localAddr remoteAddr : Address.Endpoint) (world : W)

theorem start_sound (hkeeps : service.Keeps fun tx _ => tx.standing) :
    Sound service (start service (.start id serverHostname localAddr remoteAddr) world) := by
  have hopening : Standing.Orderly service
      (Transaction.start id serverHostname localAddr remoteAddr).standing :=
    Standing.orderly_empty service _
  rw [start]
  split
  · exact .of_orderly hopening (by simp)
  · exact .begun hkeeps hopening (begin_begun service _)

/-- In every state of every connection a sender stands on a greeting, on encryption and on a user
name where the settings ask for them, and recipients stand on a sender; and wherever the checkers
look at a body, all of this holds and the body is within the limit. -/
theorem run_data_admissible (hkeeps : service.Keeps fun tx _ => tx.standing) (inputs : List Input) :
    let t := (start service (.start id serverHostname localAddr remoteAddr) world).run service
      inputs
    (∀ tx, .stage .data tx ∈ t.journal → tx.Admissible service) ∧
      t.transaction.standing.Orderly service := by
  intro t
  have hinvariant : Sound service t ∧
      ∀ start ∈ dataStarts t.journal, start.1.Admissible service := by
    refine run_induction (motive := fun t => Sound service t ∧
      ∀ start ∈ dataStarts t.journal, start.1.Admissible service) ?_ inputs ⟨?_, ?_⟩
    · rintro before signal after hmove ⟨hsound, hadmitted⟩
      refine ⟨hsound.move hkeeps hmove, ?_⟩
      rcases hmove.dataStarts with hsame | ⟨b, body, -, hread, hmore⟩
      · rw [hsame]
        exact hadmitted
      · rw [hmore]
        exact List.forall_mem_cons.mpr ⟨hsound.admissible hread, hadmitted⟩
    · exact start_sound service id serverHostname localAddr remoteAddr world hkeeps
    · rw [dataStarts_start]
      exact List.forall_mem_nil _
  refine ⟨?_, hinvariant.1.orderly⟩
  intro tx htx
  obtain ⟨newer, older, hjournal⟩ := List.append_of_mem htx
  exact hinvariant.2 (tx, older) (mem_dataStarts_iff.mpr ⟨newer, hjournal⟩)

end Turn

namespace Sample

/-- A service that writes messages into a spool. -/
def service : Service Office :=
  { hostname := "mx", pipelines := { handlers := [Office.deliver] } }

def place : Address.Endpoint :=
  ⟨.v4 ⟨10, 0, 0, 1⟩, 4242⟩

def office : Office :=
  { now := ⟨0⟩, spool := some (.directory {}) }

def start : Turn Office :=
  Turn.start service (.start ⟨1⟩ "mx" place place) office

/-- The lines with which a client comes as far as a message with a recipient. -/
def envelope : List UInt8 :=
  Text.Utf8.encode "HELO c\r\nMAIL FROM:<>\r\nRCPT TO:<b@c>\r\n"

def data : List UInt8 :=
  Text.Utf8.encode "DATA\r\n"

def opening : List UInt8 :=
  envelope ++ data

def letter : List UInt8 :=
  Text.Utf8.encode "hi\r\n.\r\n"

theorem deliver_keeps {A : Type u} (view : Transaction → A) :
    Checker.Keeps (fun tx _ => view tx) Office.deliver := by
  intro tx office
  rw [Office.deliver_transaction]

/-- The service changes no transaction. -/
theorem service_keeps {A : Type u} (view : Transaction → A) :
    service.Keeps fun tx _ => view tx where
  stages stage checker hchecker := by
    cases stage with
    | handler =>
        rw [List.mem_singleton.mp hchecker]
        exact deliver_keeps view
    | connection | helo | sender | recipient candidate | data | close => cases hchecker
  authenticator _ hauthenticator := nomatch hauthenticator

end Sample

namespace Turn

theorem run_data_admissible_letter : ∃ tx,
    .stage .data tx ∈
        (Sample.start.run Sample.service [.bytes (Sample.opening ++ Sample.letter)]).journal ∧
      tx.Admissible Sample.service := by
  have hone : (dataStarts (Sample.start.run Sample.service
      [.bytes (Sample.opening ++ Sample.letter)]).journal).length = 1 := by
    decide +kernel
  obtain ⟨⟨tx, older⟩, hstart⟩ := List.length_eq_one_iff.mp hone
  obtain ⟨newer, hjournal⟩ := mem_dataStarts_iff.mp (hstart ▸ List.mem_singleton_self (tx, older))
  have hmem : .stage .data tx ∈
      (Sample.start.run Sample.service [.bytes (Sample.opening ++ Sample.letter)]).journal := by
    rw [hjournal]
    exact List.mem_append_right newer List.mem_cons_self
  have hadmits := run_data_admissible Sample.service ⟨1⟩ "mx" Sample.place Sample.place
    Sample.office (Sample.service_keeps _) [.bytes (Sample.opening ++ Sample.letter)]
  exact ⟨tx, hmem, hadmits.1 tx hmem⟩

end Turn
end MailIntake
