import MailIntake.Proofs.Session.Envelope
/-!
Which lines a client has sent, and what each was answered with.  A line is taken up where a command
line is read and its last byte arrives; from then on everything that is written down belongs to it,
up to the next line that is taken up (`heedAll_lines`).  `Speaks` lists what a signal can do to this
history of lines and replies.
-/
namespace MailIntake

universe u

variable {W : Type u}

/-- A reply that asks a client for more. -/
def Reply.Intermediate (r : Reply) : Prop :=
  300 ≤ r.code.toNat ∧ r.code.toNat < 400

instance (r : Reply) : Decidable r.Intermediate :=
  inferInstanceAs (Decidable (_ ∧ _))

theorem Reply.final_of_negative {r : Reply} (hcode : Turn.Negative r.code) : ¬ r.Intermediate := by
  rintro ⟨-, hlow⟩
  exact absurd hcode.1 (Nat.not_le.mpr hlow)

/-- A checker that refuses only with codes that turn a client down. -/
def Checker.RefusesPlainly (checker : Checker W) : Prop :=
  ∀ tx world, ∀ r ∈ (checker tx world).refusal, Turn.Negative r.code

structure Service.RefusesPlainly (service : Service W) : Prop where
  stages : ∀ stage, ∀ checker ∈ service.pipelines.checkers stage, checker.RefusesPlainly
  authenticator : ∀ authenticator, service.authenticator = some authenticator →
    ∀ username password, (authenticator username password).RefusesPlainly

namespace Exchange

def replies (x : Exchange) : List Reply :=
  x.events.filterMap Event.reply?

theorem asks_of_line {x y : Exchange} (hline : y.line = x.line) (verb : CommandLine.Verb) :
    y.asks verb = x.asks verb := by
  rw [asks, asks, hline]

def extend (later : List Event) (x : Exchange) : Exchange :=
  { x with events := x.events ++ later }

theorem extend_extend (first second : List Event) (x : Exchange) :
    (x.extend first).extend second = x.extend (first ++ second) := by
  rw [extend, extend, extend, List.append_assoc]

end Exchange

/-- What comes later belongs to the latest exchange. -/
theorem exchangesWith_eq (later journal : List Event) :
    exchangesWith later journal = (exchanges journal).modifyHead (Exchange.extend later) := by
  induction journal generalizing later with
  | nil => rfl
  | cons e older ih =>
      have hgoes (hcontinues : e.continues) : exchangesWith later (e :: older) =
          (exchanges (e :: older)).modifyHead (Exchange.extend later) := by
        have hnewer : ∀ other ∈ [e], other.continues := by simpa using hcontinues
        have hwith := exchangesWith_append hnewer later older
        have hlatest := exchangesWith_append hnewer [] older
        have hextend : Exchange.extend ([e] ++ later) =
            Exchange.extend later ∘ Exchange.extend [e] :=
          funext fun x => (Exchange.extend_extend [e] later x).symm
        rw [List.singleton_append] at hwith hlatest
        rw [exchanges, hwith, hlatest, ih, ih, List.modifyHead_modifyHead]
        exact congrArg (fun f => (exchanges older).modifyHead f) hextend
      cases e with
      | command line => rfl
      | overlong => rfl
      | stage | checked | authenticated | replied => exact hgoes rfl

/-- The command in a line, if the line is not too long. -/
def Line.command? : Line → Option CommandLine
  | .text content => some (CommandLine.parse content)
  | .tooLong => none

namespace Turn

/-- The line that a signal completes where a command line is read: a command, or nothing if it is
too long. -/
def lineEnded? (t : Turn W) : Signal → Option (Option CommandLine)
  | .byte b =>
      match t.phase with
      | .command reader =>
          if b = LineReader.byteFeed then some (reader.add [b]).finish.command? else none
      | .opening | .response _ _ | .body _ | .handshake | .closed => none
  | .handshake _ | .ended | .expired => none

/-- The lines that signals complete where a command line is read, in order.  Bodies, responses in an
AUTH exchange and what nobody reads are no such lines. -/
def linesFrom (service : Service W) (t : Turn W) : List Signal → List (Option CommandLine)
  | [] => []
  | signal :: more =>
      (t.lineEnded? signal).toList ++ (t.heed service signal).linesFrom service more

theorem linesFrom_concat (service : Service W) (t : Turn W) (signals : List Signal)
    (signal : Signal) : t.linesFrom service (signals ++ [signal]) =
      t.linesFrom service signals ++
        ((t.heedAll service signals).lineEnded? signal).toList := by
  induction signals generalizing t with
  | nil =>
      rw [List.nil_append, linesFrom, linesFrom, linesFrom, List.append_nil, List.nil_append]
      rfl
  | cons first signals ih =>
      rw [List.cons_append, linesFrom, linesFrom, ih, List.append_assoc]
      rfl

/-- What is written about the line at hand: events that go on with its exchange, and the replies
among them. -/
def Writes (before : Turn W) (replies : List Reply) (after : Turn W) : Prop :=
  ∃ newer, after.journal = newer ++ before.journal ∧ (∀ e ∈ newer, e.continues) ∧
    newer.reverse.filterMap Event.reply? = replies

namespace Writes

variable {before mid after : Turn W} {replies more : List Reply}

theorem of_journal (hjournal : after.journal = before.journal) : Writes before [] after :=
  ⟨[], hjournal, List.forall_mem_nil _, rfl⟩

theorem trans (hfirst : Writes before replies mid) (hsecond : Writes mid more after) :
    Writes before (replies ++ more) after := by
  obtain ⟨newer, hmid, hnewer, hreplies⟩ := hfirst
  obtain ⟨newest, hafter, hnewest, hmore⟩ := hsecond
  refine ⟨newest ++ newer, ?_, ?_, ?_⟩
  · rw [hafter, hmid, List.append_assoc]
  · exact List.forall_mem_append.mpr ⟨hnewest, hnewer⟩
  · rw [List.reverse_append, List.filterMap_append, hreplies, hmore]

/-- One more reply. -/
theorem reply (hwrites : Writes before replies mid) {r : Reply}
    (hjournal : after.journal = .replied r :: mid.journal) :
    Writes before (replies ++ [r]) after :=
  hwrites.trans ⟨[.replied r], hjournal, by simp [Event.continues], rfl⟩

/-- The first reply is the next one. -/
theorem of_reply {r : Reply} (hjournal : after.journal = .replied r :: before.journal) :
    Writes before [r] after :=
  (of_journal rfl : Writes before [] before).reply hjournal

theorem replies_eq (hwrites : Writes before replies after) :
    after.replies = before.replies ++ replies := by
  obtain ⟨newer, hafter, -, hreplies⟩ := hwrites
  rw [Session.replies, Session.replies, hafter, List.reverse_append, List.filterMap_append,
    hreplies]

/-- The latest exchange goes on, and the others are as they were. -/
theorem exchanges_eq (hwrites : Writes before replies after) : ∃ later : List Event,
    exchanges after.journal = (exchanges before.journal).modifyHead (Exchange.extend later) ∧
      later.filterMap Event.reply? = replies := by
  obtain ⟨newer, hafter, hnewer, hreplies⟩ := hwrites
  refine ⟨newer.reverse, ?_, hreplies⟩
  rw [hafter, exchanges, exchangesWith_append hnewer, List.append_nil, exchangesWith_eq]

/-- No exchange begins. -/
theorem exchanges_nil (hwrites : Writes before replies after)
    (hnone : exchanges before.journal = []) : exchanges after.journal = [] := by
  obtain ⟨later, hafter, -⟩ := hwrites.exchanges_eq
  rw [hafter, hnone]
  rfl

theorem exchanges_cons (hwrites : Writes before replies after) {x : Exchange}
    {earlier : List Exchange} (hbefore : exchanges before.journal = x :: earlier) :
    ∃ y : Exchange, exchanges after.journal = y :: earlier ∧ y.line = x.line ∧
      y.replies = x.replies ++ replies := by
  obtain ⟨later, hafter, hreplies⟩ := hwrites.exchanges_eq
  refine ⟨x.extend later, by rw [hafter, hbefore]; rfl, rfl, ?_⟩
  rw [Exchange.replies, Exchange.extend, List.filterMap_append, hreplies, Exchange.replies]

/-- No line is taken up. -/
theorem lines_eq (hwrites : Writes before replies after) :
    (exchanges after.journal).map Exchange.line = (exchanges before.journal).map Exchange.line := by
  cases hbefore : exchanges before.journal with
  | nil => rw [hwrites.exchanges_nil hbefore]
  | cons x earlier =>
      obtain ⟨y, hafter, hline, -⟩ := hwrites.exchanges_cons hbefore
      rw [hafter, List.map_cons, List.map_cons, hline]

end Writes

section Outcomes

variable {service : Service W} {t after : Turn W}

/-- A stage tells a client nothing. -/
theorem Writes.of_runStage {before : Turn W} {stage : Stage} {refusal : Option Refusal}
    (hrun : before.runStage service stage = (after, refusal))
    (hbefore : before.journal = t.journal) : Writes t [] after := by
  obtain ⟨newer, hafter, hnewer⟩ := newer_of_runStage hrun
  refine ⟨newer, hbefore ▸ hafter, fun e he => (hnewer e he).continues, ?_⟩
  rw [List.filterMap_eq_nil_iff]
  intro e he
  rcases hnewer e (List.mem_reverse.mp he) with ⟨tx, rfl⟩ | ⟨place, answer, rfl⟩
  · rfl
  · rfl

theorem writes_close (service : Service W) (t : Turn W) : Writes t [] (t.close service) := by
  cases hrun : t.runStage service .close with
  | mk closed refusal =>
      rw [close_eq service t hrun]
      exact (Writes.of_runStage hrun rfl).trans (.of_journal rfl)

/-- The refusal of a stage turns the client down. -/
theorem negative_of_check {stage : Stage} {checkers : List (Checker W)}
    (hplain : ∀ checker ∈ checkers, checker.RefusesPlainly) {place : Nat} {r : Refusal}
    (hrun : check stage place checkers t = (after, some r)) : Negative r.code := by
  induction checkers generalizing place t with
  | nil => cases hrun
  | cons checker more ih =>
      cases hrefusal : (checker t.transaction t.world).refusal with
      | none =>
          rw [check_cons_none stage place more hrefusal] at hrun
          exact ih (fun other hother => hplain other (List.mem_cons_of_mem _ hother)) hrun
      | some answer =>
          rw [check_cons_some stage place more hrefusal] at hrun
          cases hrun
          exact hplain checker List.mem_cons_self t.transaction t.world r hrefusal

theorem final_of_runStage (hplain : service.RefusesPlainly) {stage : Stage} {r : Refusal}
    (hrun : t.runStage service stage = (after, some r)) :
    ¬ (⟨r.code, r.message⟩ : Reply).Intermediate :=
  Reply.final_of_negative (negative_of_check (hplain.stages stage) hrun)

/-- Where a connection stands behind the first reply to a line: if the reply is final, the client
may send another line or begin a handshake, and otherwise it owes what it was asked for. -/
inductive Settled (r : Reply) : Option CommandLine → Phase → Prop
  | answered (line : Option CommandLine) (hfinal : ¬ r.Intermediate) :
      Settled r line (.command {})
  | left (line : Option CommandLine) (hfinal : ¬ r.Intermediate) : Settled r line .closed
  | challenged (line : CommandLine) (step : AuthStep) (hverb : line.verb? = some .auth)
      (hmore : r.Intermediate) : Settled r (some line) (.response step {})
  | bodyAwaited (line : CommandLine) (decoder : DotDecoder) (hverb : line.verb? = some .data)
      (hmore : r.Intermediate) : Settled r (some line) (.body decoder)
  | handshakeAwaited (line : CommandLine) (hverb : line.verb? = some .startTls)
      (hgo : r = ⟨220, "Go ahead"⟩) : Settled r (some line) .handshake

/-- A response in an AUTH exchange is answered with one reply, which asks for another response or
ends the exchange. -/
theorem Exchanged.writes (hexchanged : Exchanged service t after) : ∃ r, Writes t [r] after ∧
    (service.RefusesPlainly → (after.phase = .command {} ∧ ¬ r.Intermediate) ∨
      ∃ step, after.phase = .response step {} ∧ r.Intermediate) := by
  cases hexchanged with
  | refused cost code message hcode =>
      refine ⟨⟨code, message⟩, .of_reply (by simp), ?_⟩
      exact fun _ => .inl ⟨rfl, Reply.final_of_negative hcode⟩
  | challenged step =>
      refine ⟨_, .of_reply (challenge_journal t step), ?_⟩
      exact fun _ => .inr ⟨step, rfl, by simp [Reply.Intermediate]⟩
  | rejected authenticator username password r hauthenticator hverdict =>
      have hasked : Writes t [] (t.questioned authenticator username password) :=
        ⟨[_], rfl, by simp [Event.continues], rfl⟩
      refine ⟨⟨r.code, r.message⟩, hasked.reply (by simp), ?_⟩
      intro hplain
      have hjudge := hplain.authenticator authenticator hauthenticator username password
      exact .inl ⟨rfl, Reply.final_of_negative (hjudge _ _ r hverdict)⟩
  | accepted authenticator username password hauthenticator hverdict =>
      have hasked : Writes t [] (t.questioned authenticator username password) :=
        ⟨[_], rfl, by simp [Event.continues], rfl⟩
      refine ⟨⟨235, "OK, you are now authenticated"⟩, hasked.reply (by simp [signIn]), ?_⟩
      exact fun _ => .inl ⟨rfl, by decide⟩

/-- A command is answered with one reply before anything else is read. -/
theorem Handled.writes {line : CommandLine} (hhandled : Handled service line t after) :
    ∃ r, Writes t [r] after ∧ (service.RefusesPlainly → Settled r (some line) after.phase) := by
  cases hhandled with
  | refused cost code message hcode hother =>
      refine ⟨⟨code, message⟩, .of_reply (by simp), ?_⟩
      exact fun _ => .answered _ (Reply.final_of_negative hcode)
  | idle hverb | reset hverb =>
      refine ⟨⟨250, "Go ahead."⟩, .of_reply (by simp), ?_⟩
      exact fun _ => .answered _ (by decide)
  | greeted protocol name mid hverb hname hrun =>
      refine ⟨⟨250, _⟩, (Writes.of_runStage hrun rfl).reply (by simp; rfl), ?_⟩
      exact fun _ => .answered _ (by simp [Reply.Intermediate])
  | greetingRefused protocol name mid r hverb hname hrun =>
      refine ⟨⟨r.code, r.message⟩, (Writes.of_runStage hrun rfl).reply
        (by simp [restoreGreeting]), ?_⟩
      exact fun hplain => .answered _ (final_of_runStage hplain hrun)
  | senderAccepted path sender mid hverb hobstacle hpath hparse hrun =>
      refine ⟨⟨250, "Go ahead"⟩, (Writes.of_runStage hrun rfl).reply (by simp), ?_⟩
      exact fun _ => .answered _ (by decide)
  | senderRefused path sender mid r hverb hobstacle hpath hparse hrun =>
      refine ⟨⟨r.code, r.message⟩, (Writes.of_runStage hrun rfl).reply
        (by simp [setSender]), ?_⟩
      exact fun hplain => .answered _ (final_of_runStage hplain hrun)
  | recipientAccepted path recipient mid hverb hsender hroom hpath hparse hrun =>
      refine ⟨⟨250, "Go ahead"⟩, (Writes.of_runStage hrun rfl).reply ?_, ?_⟩
      · rw [conclude_journal, reply_journal, journal_welcome]
      · exact fun _ => .answered _ (by decide)
  | recipientRefused path recipient mid r hverb hsender hpath hparse hrun =>
      refine ⟨⟨r.code, r.message⟩, (Writes.of_runStage hrun rfl).reply (by simp), ?_⟩
      exact fun hplain => .answered _ (final_of_runStage hplain hrun)
  | bodyAwaited hverb hsender hrecipients =>
      refine ⟨⟨354, "Go ahead. End your data with <CR><LF>.<CR><LF>"⟩, .of_reply (by simp), ?_⟩
      exact fun _ => .bodyAwaited line _ hverb (by decide)
  | quit message hverb =>
      have hbye : Writes t [⟨221, message⟩] (t.reply 221 message).countCommand :=
        .of_reply (by simp)
      refine ⟨⟨221, message⟩, hbye.trans (writes_close service _), ?_⟩
      exact fun _ => .left _ (by simp [Reply.Intermediate])
  | handshakeAwaited hverb hplain hoffers =>
      exact ⟨⟨220, "Go ahead"⟩, .of_reply (by simp), fun _ => .handshakeAwaited line hverb rfl⟩
  | auth _ hverb hobstacle hexchanged =>
      obtain ⟨r, hwrites, hsettles⟩ := hexchanged.writes
      refine ⟨r, hwrites, fun hplain => ?_⟩
      rcases hsettles hplain with ⟨hphase, hfinal⟩ | ⟨step, hphase, hmore⟩
      · rw [hphase]
        exact .answered _ hfinal
      · rw [hphase]
        exact .challenged line step hverb hmore
  | proxied header hverb henabled hfirst hparse =>
      refine ⟨⟨220, _⟩, .of_reply (by simp [relocate, lookUpNames, greet]; rfl), ?_⟩
      exact fun _ => .answered _ (by simp [Reply.Intermediate])
  | xclient attributes hverb henabled hparse =>
      refine ⟨⟨220, _⟩, .of_reply (by simp [greet]; rfl), ?_⟩
      exact fun _ => .answered _ (by simp [Reply.Intermediate])

/-- A body that has been read to its end is answered with one final reply. -/
theorem Ended.writes {outcome : BodyOutcome} (hended : Ended service t outcome after) :
    ∃ r, Writes t [r] after ∧ after.phase = .command {} ∧
      (service.RefusesPlainly → ¬ r.Intermediate) := by
  cases hended with
  | tooBig =>
      refine ⟨⟨552, tooBigText service⟩, .of_reply (by simp), rfl, ?_⟩
      exact fun _ => by simp [Reply.Intermediate]
  | bodyRefused body mid r hdata =>
      have hmid : Writes t [] mid := Writes.of_runStage hdata rfl
      refine ⟨⟨r.code, r.message⟩, hmid.reply (by simp), rfl, ?_⟩
      exact fun hplain => final_of_runStage hplain hdata
  | messageRefused body judged mid r hdata hhandler =>
      have hjudged : Writes t [] judged := Writes.of_runStage hdata rfl
      have hmid : Writes t [] mid := hjudged.trans (Writes.of_runStage hhandler rfl)
      refine ⟨⟨r.code, r.message⟩, hmid.reply (by simp), rfl, ?_⟩
      exact fun hplain => final_of_runStage hplain hhandler
  | messageAccepted body judged mid hdata hhandler =>
      have hjudged : Writes t [] judged := Writes.of_runStage hdata rfl
      have hmid : Writes t [] mid := hjudged.trans (Writes.of_runStage hhandler rfl)
      refine ⟨⟨250, "Thank you."⟩, hmid.reply (by simp), rfl, ?_⟩
      exact fun _ => by decide

/-- The reply with which a client is greeted. -/
def bannerReply (service : Service W) : Reply :=
  ⟨220, service.hostname ++ " " ++ service.settings.banner⟩

/-- A client is greeted, or turned away with one final reply. -/
theorem Begun.writes (hbegun : Begun service t after) :
    (Writes t [bannerReply service] after ∧ after.phase = .command {}) ∨
      ∃ r, Writes t [r] after ∧ after.phase = .closed ∧
        (service.RefusesPlainly → ¬ r.Intermediate) := by
  cases hbegun with
  | refused mid r hrun =>
      right
      have hmid : Writes t [] mid := Writes.of_runStage hrun rfl
      have htold : Writes t [⟨r.code, r.message⟩] (mid.replyRefusal r) := hmid.reply (by simp)
      refine ⟨_, htold.trans (writes_close service _), rfl, ?_⟩
      exact fun hplain => final_of_runStage hplain hrun
  | greeted mid hrun =>
      left
      have hmid : Writes t [] mid := Writes.of_runStage hrun rfl
      exact ⟨hmid.reply (by simp [greet, bannerReply]), rfl⟩

end Outcomes

section Lines

variable {service : Service W} {t after : Turn W} {signal : Signal}

/-- Where no command line is read, none ends. -/
theorem lineEnded?_of_phase (hphase : ∀ reader, t.phase ≠ .command reader) :
    t.lineEnded? signal = none := by
  cases signal with
  | byte b =>
      rw [lineEnded?]
      cases hreads : t.phase with
      | command reader => exact absurd hreads (hphase reader)
      | opening | response | body | handshake | closed => rfl
  | handshake | ended | expired => rfl

/-- No line ends without its last byte. -/
theorem lineEnded?_of_signal (hsignal : signal ≠ .byte LineReader.byteFeed) :
    t.lineEnded? signal = none := by
  cases signal with
  | byte b =>
      have hb : b ≠ LineReader.byteFeed := by
        rintro rfl
        exact hsignal rfl
      rw [lineEnded?]
      cases t.phase with
      | command reader => exact if_neg hb
      | opening | response | body | handshake | closed => rfl
  | handshake | ended | expired => rfl

theorem lineEnded?_of_finish {reader : LineReader} (hphase : t.phase = .command reader)
    {line : Line} (hline : (reader.add [LineReader.byteFeed]).finish = line) :
    t.lineEnded? (.byte LineReader.byteFeed) = some line.command? := by
  simp only [lineEnded?, hphase, if_true, hline]

/-- What a signal does, as far as lines and replies are concerned. -/
inductive Speaks (service : Service W) (t : Turn W) : Signal → Turn W → Prop
  /-- Nothing but what has been read is different. -/
  | still {signal : Signal} {after : Turn W} (hline : t.lineEnded? signal = none)
      (hjournal : after.journal = t.journal)
      (hphase : after.phase = t.phase ∨ ∃ b, Passes b t.phase after.phase) :
      Speaks service t signal after
  /-- A line has been taken up. -/
  | took {signal : Signal} {after : Turn W} {line : Option CommandLine} {r : Reply}
      (opened : Turn W) (reader : LineReader) (hphase : t.phase = .command reader)
      (hline : t.lineEnded? signal = some line)
      (hopened : exchanges opened.journal = ⟨line, []⟩ :: exchanges t.journal)
      (hreplies : opened.replies = t.replies) (hwrites : Writes opened [r] after)
      (hsettled : service.RefusesPlainly → Settled r line after.phase) :
      Speaks service t signal after
  /-- A response has been taken up. -/
  | responded {signal : Signal} {after : Turn W} {r : Reply} (step : AuthStep)
      (reader : LineReader) (hphase : t.phase = .response step reader)
      (hwrites : Writes t [r] after)
      (hsettled : service.RefusesPlainly → (after.phase = .command {} ∧ ¬ r.Intermediate) ∨
        ∃ username, step = .username ∧ after.phase = .response (.password username) {} ∧
          r.Intermediate) :
      Speaks service t signal after
  /-- A body has been read to its end. -/
  | bodyEnded {signal : Signal} {after : Turn W} {r : Reply} (decoder : DotDecoder)
      (hphase : t.phase = .body decoder) (hwrites : Writes t [r] after)
      (hnext : after.phase = .command {}) (hfinal : service.RefusesPlainly → ¬ r.Intermediate) :
      Speaks service t signal after
  /-- The client has been greeted. -/
  | greeted {signal : Signal} {after : Turn W} (hphase : t.phase = .opening)
      (hline : t.lineEnded? signal = none) (hwrites : Writes t [bannerReply service] after)
      (hnext : after.phase = .command {}) :
      Speaks service t signal after
  /-- The client has been turned away. -/
  | dismissed {signal : Signal} {after : Turn W} {replies : List Reply}
      (hphase : t.phase = .opening) (hline : t.lineEnded? signal = none)
      (hwrites : Writes t replies after) (hnext : after.phase = .closed)
      (hfinal : service.RefusesPlainly → ∀ r ∈ replies, ¬ r.Intermediate) :
      Speaks service t signal after
  /-- The handshake that STARTTLS asked for is complete. -/
  | upgraded {signal : Signal} {after : Turn W} (hphase : t.phase = .handshake)
      (hjournal : after.journal = t.journal) (hnext : after.phase = .command {}) :
      Speaks service t signal after
  /-- The handshake that STARTTLS asked for has failed. -/
  | upgradeFailed {signal : Signal} {after : Turn W} (hphase : t.phase = .handshake)
      (hsignal : signal = .handshake none ∨ signal = .ended)
      (hwrites : Writes t [⟨550, "Handshake error"⟩] after) (hnext : after.phase = .closed) :
      Speaks service t signal after
  /-- The client sends nothing any more. -/
  | ended {after : Turn W} (hphase : t.phase ≠ .opening ∧ t.phase ≠ .handshake ∧ t.phase ≠ .closed)
      (hwrites : Writes t [] after) (hnext : after.phase = .closed) :
      Speaks service t .ended after
  /-- A deadline has passed. -/
  | expired {after : Turn W} {replies : List Reply} (hwrites : Writes t replies after) :
      Speaks service t .expired after

theorem Passes.lineEnded? {b : UInt8} {phase : Phase} (hpasses : Passes b t.phase phase) :
    t.lineEnded? (.byte b) = none := by
  generalize hphase : t.phase = before at hpasses
  cases hpasses with
  | command reader hb => exact lineEnded?_of_signal (by simpa using hb)
  | response step reader hb => exact lineEnded?_of_phase (by simp [hphase])
  | body decoder hb => exact lineEnded?_of_phase (by simp [hphase])

theorem judge_phase (username password : String) :
    (t.judge service username password).phase = .command {} := by
  rw [judge]
  cases service.authenticator with
  | none => rfl
  | some authenticator =>
      simp only
      split
      · rfl
      · rfl

/-- Only a user name is followed by another question. -/
theorem takeResponse_step {step next : AuthStep} {line : Line} {reader : LineReader}
    (hphase : (t.takeResponse service step line).phase = .response next reader) :
    step = .username ∧ ∃ username, next = .password username := by
  cases line with
  | tooLong => simp [takeResponse] at hphase
  | text text =>
      rw [takeResponse] at hphase
      split at hphase
      · simp at hphase
      · cases step with
        | username =>
            rw [respond] at hphase
            split at hphase
            · simp at hphase
            · cases hphase
              exact ⟨rfl, _, rfl⟩
        | credentials | password =>
            rw [respond] at hphase
            split at hphase
            · simp at hphase
            · simp [judge_phase] at hphase

theorem heed_speaks (service : Service W) (t : Turn W) (signal : Signal) :
    Speaks service t signal (t.heed service signal) := by
  have hmove := heed_move service t signal
  generalize hafter : t.heed service signal = after at hmove
  cases hmove with
  | unheard b hphase =>
      have hdeaf : ∀ reader, t.phase ≠ .command reader := by
        rcases hphase with h | h | h <;> simp [h]
      exact .still (lineEnded?_of_phase hdeaf) rfl (.inl rfl)
  | unasked result hphase => exact .still (lineEnded?_of_signal (by simp)) rfl (.inl rfl)
  | finished signal hphase =>
      exact .still (lineEnded?_of_phase (by simp [hphase])) rfl (.inl rfl)
  | passed b phase hpasses => exact .still hpasses.lineEnded? rfl (.inr ⟨b, hpasses⟩)
  | overlong reader hphase hline =>
      have htold : Writes ((t.countRead 1).note .overlong) [⟨500, "5.5.2 Line too long"⟩]
          (((t.countRead 1).note .overlong).refuse Karma.badParameter 500
            "5.5.2 Line too long").awaitCommand := .of_reply (by simp)
      refine .took _ reader hphase (lineEnded?_of_finish hphase hline) rfl ?_ htold ?_
      · simp [Session.replies, Event.reply?]
      · exact fun _ => .answered _ (by decide)
  | handled reader text _ hphase hline hhandled =>
      obtain ⟨r, htold, hsettled⟩ := hhandled.writes
      refine .took _ reader hphase (lineEnded?_of_finish hphase hline) rfl ?_ htold hsettled
      simp [Session.replies, Event.reply?]
  | exchanged step reader _ hphase hexchanged =>
      obtain ⟨r, htold, hsettled⟩ := hexchanged.writes
      refine .responded step reader hphase ((Writes.of_journal rfl).trans htold) ?_
      intro hplain
      rcases hsettled hplain with hfinal | ⟨next, hnext, hmore⟩
      · exact .inl hfinal
      · right
        have htaken : (t.countRead 1).takeResponse service step
            (reader.add [LineReader.byteFeed]).finish = after := by
          rw [← hafter]
          simp only [heed, takeByte, hphase, if_true]
        obtain ⟨hstep, username, rfl⟩ := takeResponse_step (htaken ▸ hnext)
        exact ⟨username, hstep, hnext, hmore⟩
  | bodyEnded b outcome _ hread hended =>
      obtain ⟨decoder, hphase, -, -⟩ := hread
      obtain ⟨r, htold, hnext, hfinal⟩ := hended.writes
      exact .bodyEnded decoder hphase ((Writes.of_journal rfl).trans htold) hnext hfinal
  | opened h _ hphase hbegun =>
      have hline : t.lineEnded? (.handshake (some h)) = none := lineEnded?_of_signal (by simp)
      rcases hbegun.writes with ⟨htold, hnext⟩ | ⟨r, htold, hnext, hfinal⟩
      · exact .greeted hphase hline ((Writes.of_journal rfl).trans htold) hnext
      · refine .dismissed hphase hline ((Writes.of_journal rfl).trans htold) hnext ?_
        exact fun hplain => by simpa using hfinal hplain
  | openingFailed signal hphase hsignal =>
      refine .dismissed hphase (lineEnded?_of_phase (by simp [hphase]))
        ((Writes.of_journal rfl).trans (writes_close service _)) rfl ?_
      exact fun _ => List.forall_mem_nil _
  | upgraded h hphase => exact .upgraded hphase rfl rfl
  | upgradeFailed signal hphase hsignal =>
      have htold : Writes t [⟨550, "Handshake error"⟩]
          (t.refuse Karma.handshakeFailed 550 "Handshake error").countCommand := .of_reply (by simp)
      exact .upgradeFailed hphase hsignal (htold.trans (writes_close service _)) rfl
  | ended hphase => exact .ended hphase (writes_close service t) rfl
  | timedOut hphase =>
      have htold : Writes t [⟨421, "Connection timed out."⟩]
          (t.reply 421 "Connection timed out.") := .of_reply (by simp)
      exact .expired (htold.trans (writes_close service _))
  | expired hphase => exact .expired (writes_close service t)

/-- A line that is taken up opens an exchange, and nothing else does. -/
theorem Speaks.lines (hspeaks : Speaks service t signal after) :
    (exchanges after.journal).map Exchange.line =
      (t.lineEnded? signal).toList ++ (exchanges t.journal).map Exchange.line := by
  have hnone : ∀ {replies : List Reply}, t.lineEnded? signal = none → Writes t replies after →
      (exchanges after.journal).map Exchange.line =
        (t.lineEnded? signal).toList ++ (exchanges t.journal).map Exchange.line := by
    intro replies hline hwrites
    rw [hline, hwrites.lines_eq]
    rfl
  cases hspeaks with
  | still hline hjournal hphase => exact hnone hline (.of_journal hjournal)
  | took opened reader hphase hline hopened hreplies hwrites hsettled =>
      rw [hline, hwrites.lines_eq, hopened]
      rfl
  | responded step reader hphase hwrites hsettled =>
      exact hnone (lineEnded?_of_phase (by simp [hphase])) hwrites
  | bodyEnded decoder hphase hwrites hnext hfinal =>
      exact hnone (lineEnded?_of_phase (by simp [hphase])) hwrites
  | greeted hphase hline hwrites hnext => exact hnone hline hwrites
  | dismissed hphase hline hwrites hnext hfinal => exact hnone hline hwrites
  | upgraded hphase hjournal hnext =>
      exact hnone (lineEnded?_of_phase (by simp [hphase])) (.of_journal hjournal)
  | upgradeFailed hphase hsignal hwrites hnext =>
      exact hnone (lineEnded?_of_phase (by simp [hphase])) hwrites
  | ended hphase hwrites hnext => exact hnone (lineEnded?_of_signal (by simp)) hwrites
  | expired hwrites => exact hnone (lineEnded?_of_signal (by simp)) hwrites

/-- The exchanges of a connection are about the lines that were taken up, in their order. -/
theorem heedAll_lines {start : Turn W} (hstart : exchanges start.journal = [])
    (signals : List Signal) :
    (exchanges (start.heedAll service signals).journal).reverse.map Exchange.line =
      start.linesFrom service signals := by
  induction signals using List.reverseRecOn with
  | nil =>
      rw [heedAll, List.foldl_nil, hstart]
      rfl
  | append_singleton signals signal ih =>
      have hlines := (heed_speaks service (start.heedAll service signals) signal).lines
      rw [heedAll_concat, List.map_reverse, hlines, List.reverse_append, ← List.map_reverse, ih,
        linesFrom_concat]
      congr 1
      cases (start.heedAll service signals).lineEnded? signal with
      | none => rfl
      | some line => rfl

/-- No line has been taken up before the first signal. -/
theorem start_exchanges (service : Service W) (tx : Transaction) (world : W) :
    exchanges (Turn.start service tx world).journal = [] := by
  rw [Turn.start]
  split
  · rfl
  · rcases (begin_begun service { transaction := tx, phase := .opening, world }).writes with
      ⟨hwrites, -⟩ | ⟨r, hwrites, -⟩
    · exact hwrites.exchanges_nil rfl
    · exact hwrites.exchanges_nil rfl

end Lines
end Turn
end MailIntake
