import MailIntake.Proofs.Session.Admission
import Mathlib.Data.List.Induction
/-!
A body and what stands behind it.  Whatever the bytes of a body look like, they are answered once,
nothing in them is taken for a command, and the first byte behind them is the first byte of the next
command (`data_resumes`).  A body that does not end is not answered at all.
-/
namespace MailIntake

universe u v

variable {W : Type u}

namespace Turn

variable {service : Service W} {t after : Turn W}

/-- What looking at a message does: it writes down what the checkers of its stages said, and
whatever these checkers leave alone is left alone. -/
structure MessageFrame (service : Service W) (before after : Turn W) : Prop where
  journal : ∃ newer, after.journal = newer ++ before.journal ∧
    ∀ e ∈ newer, ∃ stage : Stage, stage.OfMessage ∧ e.OfStage stage
  commands : after.commands = before.commands
  tally : after.tally = before.tally
  peer : ∀ {A : Type v} (view : Peer → A),
    (∀ stage : Stage, stage.OfMessage → service.KeepsAt (fun tx _ => view tx.peer) stage) →
      view after.transaction.peer = view before.transaction.peer

theorem MessageFrame.hold (body : List UInt8) : MessageFrame.{u, v} service t (t.hold body) :=
  ⟨⟨[], rfl, List.forall_mem_nil _⟩, rfl, rfl, fun _ _ => rfl⟩

theorem MessageFrame.runStage {stage : Stage} {refusal : Option Refusal} {before : Turn W}
    (hframe : MessageFrame.{u, v} service before t) (hstage : stage.OfMessage)
    (hrun : t.runStage service stage = (after, refusal)) :
    MessageFrame.{u, v} service before after := by
  obtain ⟨newer, hnewer, hevents⟩ := newer_of_runStage hrun
  obtain ⟨older, holder, hbefore⟩ := hframe.journal
  have hleaves := leaves_of_runStage hrun
  refine ⟨⟨newer ++ older, ?_, ?_⟩, hleaves.commands.trans hframe.commands,
    hleaves.tally.trans hframe.tally, ?_⟩
  · rw [hnewer, holder, List.append_assoc]
  · intro e he
    rcases List.mem_append.mp he with hnew | hold
    · exact ⟨stage, hstage, hevents e hnew⟩
    · exact hbefore e hold
  · intro A view hkeeps
    rw [← hframe.peer view hkeeps]
    exact seen_of_runStage (hkeeps stage hstage) hrun

/-- The turn behind the checkers who look at a body: none of them if it is too big, those of its
first stage if one of them refuses, and those of both stages otherwise. -/
inductive BodyChecked (service : Service W) (before : Turn W) : BodyOutcome → Turn W → Prop
  | tooBig : BodyChecked service before .tooBig before
  | refused (body : List UInt8) (judged : Turn W) (r : Refusal)
      (hdata : (before.hold body).runStage service .data = (judged, some r)) :
      BodyChecked service before (.complete body) judged
  | handedOn (body : List UInt8) (judged mid : Turn W) (refusal : Option Refusal)
      (hdata : (before.hold body).runStage service .data = (judged, none))
      (hhandler : judged.runStage service .handler = (mid, refusal)) :
      BodyChecked service before (.complete body) mid

/-- What is written down first about a body: nothing if it is too big, and otherwise that it is
looked at, the client being who it was. -/
def DataFirst (peer : Peer) : BodyOutcome → List Event → Prop
  | .tooBig, newer => newer = []
  | .complete body, newer => ∃ later tx, newer = later ++ [.stage .data tx] ∧
      tx.peer = peer ∧ tx.envelope.body = body

theorem BodyChecked.frame {outcome : BodyOutcome} (hchecked : BodyChecked service t outcome after) :
    MessageFrame.{u, v} service t after := by
  cases hchecked with
  | tooBig => exact ⟨⟨[], rfl, List.forall_mem_nil _⟩, rfl, rfl, fun _ _ => rfl⟩
  | refused body _ r hdata => exact (MessageFrame.hold body).runStage (.inl rfl) hdata
  | handedOn body judged _ refusal hdata hhandler =>
      exact ((MessageFrame.hold body).runStage (.inl rfl) hdata).runStage (.inr rfl) hhandler

theorem BodyChecked.dataFirst {outcome : BodyOutcome} {newer : List Event}
    (hchecked : BodyChecked service t outcome after)
    (hjournal : after.journal = newer ++ t.journal) : DataFirst t.transaction.peer outcome newer := by
  cases hchecked with
  | tooBig => simpa [DataFirst] using hjournal
  | refused body _ r hdata =>
      obtain ⟨checks, -, hchecks⟩ := journal_of_runStage hdata
      refine ⟨checks, (t.hold body).transaction, ?_, rfl, rfl⟩
      refine (List.append_left_inj t.journal).mp ?_
      rw [← hjournal, hchecks, List.append_assoc]
      rfl
  | handedOn body judged _ refusal hdata hhandler =>
      obtain ⟨checks, -, hchecks⟩ := journal_of_runStage hdata
      obtain ⟨later, hlater, -⟩ := newer_of_runStage hhandler
      refine ⟨later ++ checks, (t.hold body).transaction, ?_, rfl, rfl⟩
      refine (List.append_left_inj t.journal).mp ?_
      rw [← hjournal, hlater, hchecks, List.append_assoc, List.append_assoc]
      rfl

/-- How a connection goes on behind a body: it waits for a command, and one reply has been written,
behind what the checkers of the message said.  The client is who those checkers say it is, and who
it was before if there were none or they left that alone. -/
structure Resumes (service : Service W) (before : Turn W) (outcome : BodyOutcome)
    (after : Turn W) : Prop where
  phase : after.phase = .command {}
  journal : ∃ code message newer,
    after.journal = .replied ⟨code, message⟩ :: newer ++ before.journal ∧
      (∀ e ∈ newer, ∃ stage : Stage, stage.OfMessage ∧ e.OfStage stage) ∧
      DataFirst before.transaction.peer outcome newer
  messages : after.tally.messages ≤ before.tally.messages + 1
  commands : after.commands = before.commands + 1
  bytesRead : after.tally.bytesRead = before.tally.bytesRead
  peer : ∃ looked, BodyChecked service before outcome looked ∧
    after.transaction.peer = looked.transaction.peer
  unjudged : outcome = .tooBig → after.transaction.peer = before.transaction.peer
  kept : ∀ {A : Type v} (view : Peer → A),
    (∀ stage : Stage, stage.OfMessage → service.KeepsAt (fun tx _ => view tx.peer) stage) →
      view after.transaction.peer = view before.transaction.peer

/-- Behind a look at a message one reply is written, whatever becomes of the envelope. -/
theorem BodyChecked.resumes {outcome : BodyOutcome} {looked : Turn W}
    (hchecked : BodyChecked service t outcome looked) (told : Turn W)
    (hjournal : told.journal = looked.journal) (hcommands : told.commands = looked.commands)
    (hread : told.tally.bytesRead = looked.tally.bytesRead)
    (hmessages : told.tally.messages ≤ looked.tally.messages + 1)
    (hpeer : told.transaction.peer = looked.transaction.peer) (code : UInt16)
    (message : String) :
    Resumes.{u, v} service t outcome (told.reply code message).conclude := by
  have hframe : MessageFrame.{u, v} service t looked := hchecked.frame
  obtain ⟨newer, hnewer, hevents⟩ := hframe.journal
  have hsame : (told.reply code message).conclude.transaction.peer = looked.transaction.peer := by
    rw [conclude_transaction, reply_transaction, hpeer]
  constructor
  · rw [conclude_phase]
  · refine ⟨code, message, newer, ?_, hevents, hchecked.dataFirst hnewer⟩
    rw [conclude_journal, reply_journal, hjournal, hnewer, List.cons_append]
  · rw [conclude_messages, reply_messages, ← hframe.tally]
    exact hmessages
  · rw [conclude_commands, reply_commands, hcommands, hframe.commands]
  · rw [conclude_bytesRead, reply_bytesRead, hread, hframe.tally]
  · exact ⟨looked, hchecked, hsame⟩
  · rintro rfl
    cases hchecked with
    | tooBig => exact hsame
  · intro A view hkeeps
    rw [hsame]
    exact hframe.peer view hkeeps

/-- However a body ends, the connection goes on in the same way. -/
theorem Ended.resumes {outcome : BodyOutcome} (hended : Ended service t outcome after) :
    Resumes.{u, v} service t outcome after := by
  cases hended with
  | tooBig =>
      have hchecked : BodyChecked service t .tooBig t := .tooBig
      exact hchecked.resumes (t.penalize Karma.messageTooBig).resetEnvelope rfl rfl rfl
        (Nat.le_succ _) rfl _ _
  | bodyRefused body mid r hdata =>
      exact (BodyChecked.refused body mid r hdata).resumes mid.resetEnvelope rfl rfl rfl
        (Nat.le_succ _) rfl _ _
  | messageRefused body judged mid r hdata hhandler =>
      exact (BodyChecked.handedOn body judged mid (some r) hdata hhandler).resumes mid.resetEnvelope
        rfl rfl rfl (Nat.le_succ _) rfl _ _
  | messageAccepted body judged mid hdata hhandler =>
      exact (BodyChecked.handedOn body judged mid none hdata hhandler).resumes
        (mid.countMessage.reward Karma.commandExecuted).resetEnvelope rfl rfl rfl
        (Nat.le_refl _) rfl _ _

/-- The turn behind a DATA command that asks for a body. -/
def askForBody (service : Service W) (line : CommandLine) (t : Turn W) : Turn W :=
  ((t.note (.command line)).reply 354 "Go ahead. End your data with <CR><LF>.<CR><LF>").inPhase
    (.body { limit := service.settings.maxMessageSize.toNat })

section Lines

variable (service) {reader : LineReader} {chunk behind : List UInt8} {line : Line}

/-- A chunk in which a command line ends. -/
theorem receive_of_command (hphase : t.phase = .command reader)
    (hline : reader.feed chunk = .line line behind) :
    t.receive service chunk =
      ((t.countRead (chunk.length - behind.length)).takeLine service line).receive service
        behind := by
  cases chunk with
  | nil => cases hline
  | cons b rest =>
      rw [receive, advance, hphase]
      simp only [hline]

/-- A chunk in which a response ends. -/
theorem receive_of_response {step : AuthStep} (hphase : t.phase = .response step reader)
    (hline : reader.feed chunk = .line line behind) :
    t.receive service chunk =
      ((t.countRead (chunk.length - behind.length)).takeResponse service step line).receive service
        behind := by
  cases chunk with
  | nil => cases hline
  | cons b rest =>
      rw [receive, advance, hphase]
      simp only [hline]

theorem receive_line {text : String} (hphase : t.phase = .command reader)
    (hline : reader.feed chunk = .line (.text text) []) :
    t.receive service chunk = (t.countRead chunk.length).takeLine service (.text text) := by
  rw [receive_of_command service hphase hline, receive]
  rfl

end Lines

theorem takeLine_data {text : String} (hverb : (CommandLine.parse text).verb? = some .data)
    (hsender : t.transaction.envelope.sender.isSome)
    (hrecipients : t.transaction.envelope.recipients ≠ []) :
    t.takeLine service (.text text) = t.askForBody service (CommandLine.parse text) := by
  simp only [takeLine, dispatch, hverb, execute, data]
  rw [if_neg, if_neg]
  · rfl
  · simpa using hrecipients
  · simpa [Option.isSome_iff_ne_none] using hsender

theorem receive_wholeBody {limit : Nat} {wire : List UInt8} (hphase : t.phase = .body { limit })
    (hwhole : WholeBody wire) :
    t.receive service wire =
      (t.countRead wire.length).endBody service (.ofText limit (bodyText wire)) := by
  obtain ⟨d, hfeed, hfinish⟩ := DotDecoder.feed_wholeBody limit hwhole []
  rw [List.append_nil] at hfeed
  cases wire with
  | nil => cases hfeed
  | cons b rest =>
      rw [receive, advance, hphase]
      simp only [hfeed]
      rw [receive, hfinish]
      rfl

theorem receive_append (front back : List UInt8) :
    t.receive service (front ++ back) = (t.receive service front).receive service back := by
  rw [receive_eq_foldl, receive_eq_foldl, receive_eq_foldl, List.foldl_append]

theorem heedAll_bytes (bytes : List UInt8) :
    t.heedAll service (bytes.map .byte) = t.receive service bytes := by
  rw [receive_eq_foldl, heedAll, List.foldl_map]
  rfl

/-- A body that has not ended is read on, or the connection has ended and only its last stage was
written down. -/
inductive Silent (before : Turn W) (limit : Nat) (read : List UInt8) (after : Turn W) : Prop
  | reading (d : DotDecoder) (hphase : after.phase = .body d)
      (hjournal : after.journal = before.journal)
      (hfeed : ({ limit } : DotDecoder).feed read = (none, d))
  | closed (newer : List Event) (hphase : after.phase = .closed)
      (hjournal : after.journal = newer ++ before.journal)
      (hclose : ∀ e ∈ newer, e.OfStage .close)

theorem Silent.close {before : Turn W} {limit : Nat} (read : List UInt8)
    (hjournal : t.journal = before.journal) :
    Silent before limit read (t.close service) := by
  cases hrun : t.runStage service .close with
  | mk after refusal =>
      obtain ⟨newer, hnewer, hevents⟩ := newer_of_runStage hrun
      rw [close_eq service t hrun]
      refine .closed newer rfl ?_ hevents
      rw [inPhase_journal, mapTransaction_journal, hnewer, hjournal]

theorem Silent.heed {before : Turn W} {limit : Nat} {read : List UInt8} (signal : Signal)
    (hopen : OpenBody (read ++ signal.byte?.toList)) (hsilent : Silent before limit read t) :
    Silent before limit (read ++ signal.byte?.toList) (t.heed service signal) := by
  cases hsilent with
  | closed newer hphase hjournal hclose =>
      have hstill : t.heed service signal = t := by
        cases signal with
        | byte b => simp only [Turn.heed, takeByte, hphase]
        | handshake result => simp only [Turn.heed, endHandshake, hphase]
        | ended => simp only [Turn.heed, endInput, hphase]
        | expired => simp only [Turn.heed, expire, hphase]
      rw [hstill]
      exact .closed newer hphase hjournal hclose
  | reading d hphase hjournal hfeed =>
      cases signal with
      | byte b =>
          have hgoes : ¬ d.endsWith b := by
            rw [DotDecoder.endsWith_iff_of_feed hopen.of_append hfeed]
            exact hopen _ (List.prefix_refl _)
          simp only [Turn.heed, takeByte, hphase, if_neg hgoes]
          exact .reading (d.step b) rfl hjournal (DotDecoder.feed_concat hfeed hgoes)
      | handshake result =>
          simp only [Turn.heed, endHandshake, hphase, Signal.byte?, Option.toList_none,
            List.append_nil]
          exact .reading d hphase hjournal hfeed
      | ended =>
          simp only [Turn.heed, endInput, hphase]
          exact .close _ hjournal
      | expired =>
          simp only [Turn.heed, expire, hphase]
          exact .close _ hjournal

variable (service) in
theorem heedAll_silent {limit : Nat} (hphase : t.phase = .body { limit }) {more : List Signal}
    (hopen : OpenBody (received more)) :
    Silent t limit (received more) (t.heedAll service more) := by
  -- The last signal is split off: a body that is open behind it was open before.
  induction more using List.reverseRecOn with
  | nil => exact .reading { limit } hphase rfl rfl
  | append_singleton more signal ih =>
      have hlast : received (more ++ [signal]) = received more ++ signal.byte?.toList := by
        rw [received_append]
        cases signal <;> rfl
      rw [hlast] at hopen ⊢
      rw [heedAll_append]
      exact (ih hopen.of_append).heed signal hopen

/-- No bytes of a body are taken for anything else.  Once a client with a sender and a recipient has
sent DATA, everything up to the first place where the body ends is answered by one reply, and the
connection goes on with the first byte behind it, however the bytes are cut into chunks; who the
client is can only be changed by the checkers who look at the body.  As long as there is no such
place, nothing is answered and no command is taken up. -/
theorem data_resumes (service : Service W) (t : Turn W) {reader : LineReader} {text : String}
    {line : List UInt8} (hphase : t.phase = .command reader)
    (hline : reader.feed line = .line (.text text) [])
    (hverb : (CommandLine.parse text).verb? = some .data)
    (hsender : t.transaction.envelope.sender.isSome)
    (hrecipients : t.transaction.envelope.recipients ≠ []) (inputs : List Input) :
    let asked := (t.countRead line.length).askForBody service (CommandLine.parse text)
    asked.transaction = t.transaction ∧
    (∀ wire rest, WholeBody wire →
      inputs.flatMap Input.signals = (line ++ wire ++ rest).map .byte →
      ∃ resumed, t.run service inputs = resumed.receive service rest ∧
        Resumes.{u, v} service (asked.countRead wire.length)
          (.ofText service.settings.maxMessageSize.toNat (bodyText wire)) resumed) ∧
    ∀ more, OpenBody (received more) →
      inputs.flatMap Input.signals = line.map .byte ++ more →
      ∃ newer, (t.run service inputs).journal = newer ++ asked.journal ∧
        ∀ e ∈ newer, e.OfStage .close := by
  intro asked
  have hasked : t.receive service line = asked := by
    rw [receive_line service hphase hline]
    exact takeLine_data hverb hsender hrecipients
  refine ⟨rfl, ?_, ?_⟩
  · intro wire rest hwhole hinputs
    refine ⟨(asked.countRead wire.length).endBody service
      (.ofText service.settings.maxMessageSize.toNat (bodyText wire)), ?_,
      (endBody_ended service _ _).resumes⟩
    rw [run_eq_heedAll, hinputs, heedAll_bytes, receive_append, receive_append, hasked,
      receive_wholeBody rfl hwhole]
  · intro more hopen hinputs
    rw [run_eq_heedAll, hinputs, heedAll_append, heedAll_bytes, hasked]
    have hbody : asked.phase = .body { limit := service.settings.maxMessageSize.toNat } :=
      rfl
    cases heedAll_silent service hbody hopen with
    | reading d hphase hjournal hfeed => exact ⟨[], hjournal, List.forall_mem_nil _⟩
    | closed newer hphase hjournal hclose => exact ⟨newer, hjournal, hclose⟩

end Turn

namespace Sample

/-- A checker that gives the client another name. -/
def rename : Checker Office := fun tx office =>
  { transaction := { tx with peer := { tx.peer with helo := some "other" } }
    world := office
    refusal := none }

/-- A service that renames the clients whose messages it looks at, and looks at short ones only. -/
def meddling : Service Office :=
  { hostname := "mx", settings := { maxMessageSize := 5 }, pipelines := { data := [rename] } }

def longLetter : List UInt8 :=
  Text.Utf8.encode "hello\r\n.\r\n"

end Sample

namespace Turn

/-- The client is who it was behind a body that the checkers let pass as it is, and behind one that
is too big even if they would have renamed it. -/
theorem data_resumes_letter :
    (∃ t resumed : Turn Office, t = Sample.start.run Sample.service [.bytes Sample.envelope] ∧
      t.run Sample.service [.bytes (Sample.data ++ Sample.letter ++ Sample.envelope)] =
        resumed.receive Sample.service Sample.envelope ∧
      resumed.phase = .command {} ∧ resumed.transaction.peer = t.transaction.peer) ∧
    ∃ t resumed : Turn Office,
      t = (start Sample.meddling (.start ⟨1⟩ "mx" Sample.place Sample.place) Sample.office).run
        Sample.meddling [.bytes Sample.envelope] ∧
      t.run Sample.meddling [.bytes (Sample.data ++ Sample.longLetter ++ Sample.envelope)] =
        resumed.receive Sample.meddling Sample.envelope ∧
      resumed.phase = .command {} ∧ resumed.transaction.peer = t.transaction.peer := by
  have hline : ({} : LineReader).feed Sample.data = .line (.text "DATA") [] := by decide +kernel
  have hverb : (CommandLine.parse "DATA").verb? = some .data := by decide +kernel
  constructor
  · obtain ⟨t, ht⟩ : ∃ t, t = Sample.start.run Sample.service [.bytes Sample.envelope] := ⟨_, rfl⟩
    obtain ⟨hphase, hsender, hrecipients⟩ : t.phase = .command {} ∧
        t.transaction.envelope.sender.isSome ∧ t.transaction.envelope.recipients ≠ [] := by
      rw [ht]
      decide +kernel
    have hwhole : WholeBody Sample.letter := by decide +kernel
    obtain ⟨hasked, hbodies, -⟩ := data_resumes.{0, 0} Sample.service t hphase hline hverb hsender
      hrecipients [.bytes (Sample.data ++ Sample.letter ++ Sample.envelope)]
    obtain ⟨resumed, hrun, hresumed⟩ := hbodies Sample.letter Sample.envelope hwhole
      (List.append_nil _)
    have hkept := hresumed.kept id fun stage _ => (Sample.service_keeps _).stages stage
    exact ⟨t, resumed, ht, hrun, hresumed.phase, hkept.trans (congrArg Transaction.peer hasked)⟩
  · obtain ⟨t, ht⟩ : ∃ t, t = (start Sample.meddling (.start ⟨1⟩ "mx" Sample.place Sample.place)
        Sample.office).run Sample.meddling [.bytes Sample.envelope] := ⟨_, rfl⟩
    obtain ⟨hphase, hsender, hrecipients⟩ : t.phase = .command {} ∧
        t.transaction.envelope.sender.isSome ∧ t.transaction.envelope.recipients ≠ [] := by
      rw [ht]
      decide +kernel
    have hwhole : WholeBody Sample.longLetter := by decide +kernel
    have htooBig : BodyOutcome.ofText Sample.meddling.settings.maxMessageSize.toNat
        (bodyText Sample.longLetter) = .tooBig := by
      decide +kernel
    obtain ⟨hasked, hbodies, -⟩ := data_resumes.{0, 0} Sample.meddling t hphase hline hverb hsender
      hrecipients [.bytes (Sample.data ++ Sample.longLetter ++ Sample.envelope)]
    obtain ⟨resumed, hrun, hresumed⟩ := hbodies Sample.longLetter Sample.envelope hwhole
      (List.append_nil _)
    have hsame := hresumed.unjudged htooBig
    exact ⟨t, resumed, ht, hrun, hresumed.phase, hsame.trans (congrArg Transaction.peer hasked)⟩

/-- A checker of bodies may give the client another name, which it has behind the body. -/
theorem greeting_rewritten :
    let t := (start Sample.meddling (.start ⟨1⟩ "mx" Sample.place Sample.place)
      Sample.office).run Sample.meddling [.bytes Sample.envelope]
    t.phase = .command {} ∧ t.transaction.envelope.sender.isSome ∧
      t.transaction.envelope.recipients ≠ [] ∧ WholeBody Sample.letter ∧
      (t.run Sample.meddling [.bytes (Sample.data ++ Sample.letter)]).transaction.peer.helo ≠
        t.transaction.peer.helo := by
  decide +kernel

end Turn
end MailIntake
