import MailIntake.Proofs.Session.Lines
/-!
Where a client is.  At first that is where its connection comes from; a proxy may say otherwise with
the first command, and a trusted client with any command.  Nothing else moves a client, and the
names of a client are those of the address where it is now (`run_remoteAddr_located`).
-/
namespace MailIntake

open Address

universe u

variable {W : Type u}

/-- Where a client is, and the names that it goes by. -/
structure Location where
  address : Endpoint
  names : List String

def Peer.location (p : Peer) : Location :=
  ⟨p.remoteAddr, p.ptrs⟩

namespace Transaction

variable (tx : Transaction)

@[simp]
theorem peer_reward (amount : Int) : (tx.reward amount).peer = tx.peer := by
  rw [reward, withMetadata]

@[simp]
theorem peer_penalize (cost : Int) : (tx.penalize cost).peer = tx.peer := by
  rw [penalize, withMetadata]

@[simp]
theorem peer_resetEnvelope : tx.resetEnvelope.peer = tx.peer := by
  rw [resetEnvelope]

end Transaction

/-- The address that an attribute list gives in full. -/
def XClientAttributes.endpoint? (a : XClientAttributes) : Option Endpoint :=
  match a.addr, a.port with
  | some ip, some port => some ⟨ip, port⟩
  | _, _ => none

namespace CommandLine

def Relocates (line : CommandLine) : Prop :=
  line.verb? = some .proxy ∨ line.verb? = some .xclient

/-- What a line that speaks for another client says about the address, if it is heard: a PROXY is
heard where it is enabled, comes first and is well-formed, and an XCLIENT where it is enabled and
well-formed. -/
def heard? (service : Service W) (first : Bool) (line : CommandLine) : Option (Option Endpoint) :=
  match line.verb? with
  | some .proxy =>
      if service.settings.enableProxyProtocol ∧ first then
        (ProxyHeader.ofFields line.fields).toOption.map fun header => some header.source
      else none
  | some .xclient =>
      if service.settings.enableXclient then
        (XClientAttributes.parse line.arguments).toOption.map XClientAttributes.endpoint?
      else none
  | _ => none

theorem heard?_of_other {service : Service W} {first : Bool} {line : CommandLine}
    (hother : ¬ line.Relocates) : line.heard? service first = none := by
  rw [heard?]
  split
  · next hverb => exact absurd (.inl hverb) hother
  · next hverb => exact absurd (.inr hverb) hother
  · rfl

/-- A PROXY is heard only if it comes first. -/
theorem first_of_heard {service : Service W} {first : Bool} {line : CommandLine}
    (hverb : line.verb? = some .proxy) (hheard : (line.heard? service first).isSome) :
    first = true := by
  rw [heard?, hverb] at hheard
  simp only at hheard
  split at hheard
  · next hfirst => exact hfirst.2
  · simp at hheard

end CommandLine

/-- How many of the lines that were taken up are commands; lines that were too long are none. -/
def taken (lines : List (Option CommandLine)) : Nat :=
  lines.countP Option.isSome

/-- What a line says about the address of the client if it is heard behind earlier ones. -/
def lineHeard? (service : Service W) (earlier : List (Option CommandLine))
    (line : Option CommandLine) : Option (Option Endpoint) :=
  line.bind (CommandLine.heard? service (taken earlier = 0))

/-- Where a client is who came from an address and sent lines, the latest first. -/
def located (service : Service W) (peer : Endpoint) : List (Option CommandLine) → Endpoint
  | [] => peer
  | line :: earlier => (lineHeard? service earlier line).join.getD (located service peer earlier)

/-- Where neither a proxy nor a trusted client may speak, a client stays where it came from. -/
theorem located_of_disabled {service : Service W}
    (hproxy : service.settings.enableProxyProtocol = false)
    (hxclient : service.settings.enableXclient = false) (peer : Endpoint)
    (lines : List (Option CommandLine)) : located service peer lines = peer := by
  induction lines with
  | nil => rfl
  | cons line earlier ih =>
      have hnone : lineHeard? service earlier line = none := by
        cases line with
        | none => rfl
        | some line =>
            rw [lineHeard?, Option.bind_some, CommandLine.heard?]
            split
            · simp [hproxy]
            · simp [hxclient]
            · rfl
      rw [located, hnone, ih]
      rfl

/-- Whether a client that speaks for another one was greeted for that. -/
def Exchange.welcomed (x : Exchange) : Bool :=
  x.answered .proxy 220 || x.answered .xclient 220

/-- The exchanges in which a client was greeted for another one are those with a line that was
heard. -/
def Heard (service : Service W) : List Exchange → Prop
  | [] => True
  | x :: earlier =>
      (x.welcomed ↔ (lineHeard? service (earlier.map Exchange.line) x.line).isSome) ∧
        Heard service earlier

theorem Heard.at {service : Service W} {newer earlier : List Exchange} {x : Exchange}
    (hheard : Heard service (newer ++ x :: earlier)) :
    x.welcomed ↔ (lineHeard? service (earlier.map Exchange.line) x.line).isSome := by
  induction newer with
  | nil => exact hheard.1
  | cons y newer ih => exact ih hheard.2

/-- A PROXY is heard once at most: the next one is not the first command any more. -/
theorem Heard.proxies {service : Service W} {history : List Exchange}
    (hheard : Heard service history) :
    history.countP (fun x => x.answered .proxy 220) ≤ 1 := by
  have hline : ∀ {x : Exchange}, x.answered .proxy 220 →
      ∃ line, x.line = some line ∧ line.verb? = some .proxy := by
    intro x hanswered
    rw [Exchange.answered, Bool.and_eq_true, Exchange.asks, beq_iff_eq,
      Option.bind_eq_some_iff] at hanswered
    exact hanswered.1
  induction history with
  | nil => exact Nat.zero_le _
  | cons x earlier ih =>
      by_cases hanswered : x.answered .proxy 220
      · obtain ⟨line, hx, hverb⟩ := hline hanswered
        have hwelcomed : x.welcomed := by rw [Exchange.welcomed, hanswered, Bool.true_or]
        have hsome := hheard.1.mp hwelcomed
        rw [hx, lineHeard?, Option.bind_some] at hsome
        have hfirst : taken (earlier.map Exchange.line) = 0 := by
          simpa using CommandLine.first_of_heard hverb hsome
        have hnone : earlier.countP (fun x => x.answered .proxy 220) = 0 := by
          rw [List.countP_eq_zero]
          intro y hy hagain
          obtain ⟨other, hother, -⟩ := hline hagain
          have hmissing := List.countP_eq_zero.mp hfirst y.line (List.mem_map_of_mem hy)
          simp [hother] at hmissing
        rw [List.countP_cons_of_pos hanswered, hnone]
      · rw [List.countP_cons_of_neg hanswered]
        exact ih hheard.2

namespace Exchange

variable {x : Exchange}

/-- Whether a command was answered with a code can be told from the replies. -/
theorem answered_eq_any (verb : CommandLine.Verb) (code : UInt16) :
    x.answered verb code = (x.asks verb && x.replies.any fun r => r.code == code) := by
  rw [answered, replies, List.any_filterMap]
  congr 2
  funext e
  cases e with
  | replied r => rfl
  | command | overlong | stage | checked | authenticated => rfl

/-- A client is greeted for another one if it speaks for one and has the reply of a greeting. -/
theorem welcomed_iff : x.welcomed ↔
    (∃ line ∈ x.line, line.Relocates) ∧ ∃ r ∈ x.replies, r.code = 220 := by
  have hasks : ∀ verb, x.asks verb = true ↔ ∃ line ∈ x.line, line.verb? = some verb := by
    intro verb
    rw [asks, beq_iff_eq, Option.bind_eq_some_iff]
    rfl
  rw [welcomed, Bool.or_eq_true, answered_eq_any, answered_eq_any, Bool.and_eq_true,
    Bool.and_eq_true, hasks, hasks, ← or_and_right, List.any_eq_true]
  refine and_congr ?_ (by simp)
  constructor
  · rintro (⟨line, hline, hverb⟩ | ⟨line, hline, hverb⟩)
    · exact ⟨line, hline, .inl hverb⟩
    · exact ⟨line, hline, .inr hverb⟩
  · rintro ⟨line, hline, hverb | hverb⟩
    · exact .inl ⟨line, hline, hverb⟩
    · exact .inr ⟨line, hline, hverb⟩

end Exchange

/-- Whether the command that a connection is busy with has not been counted yet. -/
def Phase.underway : Phase → Nat
  | .response _ _ | .body _ | .handshake => 1
  | .opening | .command _ | .closed => 0

namespace Turn

def location (t : Turn W) : Location :=
  t.transaction.peer.location

def movedBy (service : Service W) (said : Option Endpoint) (l : Location) : Location :=
  match said with
  | some address => ⟨address, namesOf service address.ip⟩
  | none => l

@[simp]
theorem location_reply (t : Turn W) (code : UInt16) (message : String) :
    (t.reply code message).location = t.location := by
  rw [location, location, reply_transaction]

@[simp]
theorem location_conclude (t : Turn W) : t.conclude.location = t.location := rfl

@[simp]
theorem location_awaitCommand (t : Turn W) : t.awaitCommand.location = t.location := rfl

@[simp]
theorem location_countRead (t : Turn W) (bytes : Nat) :
    (t.countRead bytes).location = t.location := rfl

@[simp]
theorem location_countCommand (t : Turn W) : t.countCommand.location = t.location := rfl

@[simp]
theorem location_inPhase (t : Turn W) (phase : Phase) :
    (t.inPhase phase).location = t.location := rfl

@[simp]
theorem location_mapTransaction (t : Turn W) {f : Transaction → Transaction}
    (hsame : ∀ tx, (f tx).peer.location = tx.peer.location) :
    (t.mapTransaction f).location = t.location :=
  hsame t.transaction

@[simp]
theorem location_introduce (t : Turn W) (protocol : Protocol) (name : String) :
    (t.introduce protocol name).location = t.location := rfl

@[simp]
theorem location_restoreGreeting (t : Turn W) (before : Peer) :
    (t.restoreGreeting before).location = t.location := rfl

@[simp]
theorem location_signIn (t : Turn W) (username password : String) :
    (t.signIn username password).location = t.location := rfl

/-- What becomes of a command that speaks for another client. -/
inductive Hears (service : Service W) (t : Turn W) : Option (Option Endpoint) → Turn W → Prop
  | refused (cost : Int) (code : UInt16) (message : String) (hcode : Negative code) :
      Hears service t none (t.refuse cost code message).conclude
  | welcomed (said : Option Endpoint) (told : Turn W) (hjournal : told.journal = t.journal)
      (hcommands : told.commands = t.commands)
      (hlocation : told.location = movedBy service said t.location) :
      Hears service t (some said) (told.greet service).conclude

section Hears

variable {service : Service W} {t after : Turn W} {line : CommandLine}
  {said : Option (Option Endpoint)}

theorem proxy_hears (hverb : line.verb? = some .proxy) :
    Hears service t (line.heard? service (t.commands = 0)) (t.proxy service line) := by
  rw [CommandLine.heard?, hverb, proxy]
  by_cases henabled : service.settings.enableProxyProtocol
  · by_cases hfirst : t.commands = 0
    · simp only [henabled, hfirst, not_true_eq_false, if_false, Nat.lt_irrefl, decide_true,
        and_self, if_true]
      cases ProxyHeader.ofFields line.fields with
      | error e => exact .refused _ _ _ (by decide)
      | ok header => exact .welcomed (some header.source) _ rfl rfl rfl
    · simp only [henabled, hfirst, not_true_eq_false, if_false, Nat.pos_of_ne_zero hfirst, if_true,
        decide_false, Bool.false_eq_true, and_false]
      exact .refused _ _ _ (by decide)
  · rw [if_pos henabled, if_neg (fun h => henabled h.1), ← refuse_zero]
    exact .refused _ _ _ (by decide)

theorem moveTo_commands (service : Service W) (attributes : XClientAttributes) (t : Turn W) :
    (t.moveTo service attributes).commands = t.commands := by
  rw [moveTo]
  split
  · rfl
  · rfl

theorem moveTo_location (service : Service W) (attributes : XClientAttributes) (t : Turn W) :
    (t.moveTo service attributes).location = movedBy service attributes.endpoint? t.location := by
  rw [moveTo, XClientAttributes.endpoint?]
  cases attributes.addr with
  | none => rfl
  | some ip =>
      cases attributes.port with
      | none => rfl
      | some port => rfl

theorem xclient_hears (hverb : line.verb? = some .xclient) (first : Bool) :
    Hears service t (line.heard? service first) (t.xclient service line) := by
  rw [CommandLine.heard?, hverb, xclient]
  by_cases henabled : service.settings.enableXclient
  · simp only [henabled, not_true_eq_false, if_false, if_true]
    cases XClientAttributes.parse line.arguments with
    | error e => exact .refused _ _ _ (by decide)
    | ok attributes =>
        exact .welcomed attributes.endpoint? _ (by simp) (moveTo_commands service attributes t)
          (moveTo_location service attributes t)
  · rw [if_pos henabled, if_neg henabled, ← refuse_zero]
    exact .refused _ _ _ (by decide)

/-- A client is greeted for another one if its line is heard, and turned down otherwise. -/
theorem Hears.told (hhears : Hears service t said after) : ∃ r, Writes t [r] after ∧
    (r.code = 220 ↔ said.isSome) ∧ after.phase = .command {} ∧
    after.commands = t.commands + 1 ∧ after.location = movedBy service said.join t.location := by
  cases hhears with
  | refused cost code message hcode =>
      refine ⟨⟨code, message⟩, .of_reply (by simp), ?_, rfl, rfl, by simp [movedBy]⟩
      have hother : code ≠ 220 := by
        rintro rfl
        exact absurd hcode (by decide)
      simp [hother]
  | welcomed said told hjournal hcommands hlocation =>
      refine ⟨bannerReply service, .of_reply (by simp [greet, hjournal, bannerReply]),
        by simp [bannerReply], rfl, ?_, ?_⟩
      · simp [greet, hcommands]
      · rw [Option.join_some, ← hlocation]
        simp [greet]

end Hears

section Kept

variable {service : Service W} {t after : Turn W} {line : CommandLine}
  (hkeeps : service.Keeps fun tx _ => tx.peer.location)

include hkeeps

theorem location_of_runStage {stage : Stage} {refusal : Option Refusal}
    (hrun : t.runStage service stage = (after, refusal)) : after.location = t.location :=
  seen_of_runStage (hkeeps.stages stage) hrun

theorem location_close (t : Turn W) : (t.close service).location = t.location := by
  cases hrun : t.runStage service .close with
  | mk closed refusal =>
      rw [close_eq service t hrun, ← location_of_runStage hkeeps hrun]
      rfl

theorem Exchanged.location (hexchanged : Exchanged service t after) :
    after.location = t.location := by
  have hasked : ∀ {authenticator : Authenticator W},
      service.authenticator = some authenticator → ∀ username password,
        (t.questioned authenticator username password).location = t.location :=
    fun hauthenticator username password =>
      hkeeps.authenticator _ hauthenticator username password t.transaction t.world
  cases hexchanged with
  | refused cost code message hcode => simp
  | challenged step => simp [Turn.location]
  | rejected authenticator username password r hauthenticator hverdict =>
      rw [← hasked hauthenticator username password]
      simp
  | accepted authenticator username password hauthenticator hverdict =>
      rw [← hasked hauthenticator username password]
      simp

/-- No other command moves a client. -/
theorem Handled.location (hhandled : Handled service line t after) (hother : ¬ line.Relocates) :
    after.location = t.location := by
  cases hhandled with
  | refused | idle | reset | bodyAwaited | handshakeAwaited => simp
  | greeted protocol name mid hverb hname hrun =>
      have hmid := location_of_runStage hkeeps hrun
      simpa using hmid
  | greetingRefused protocol name mid r hverb hname hrun =>
      have hmid := location_of_runStage hkeeps hrun
      simpa using hmid
  | senderAccepted path sender mid hverb hobstacle hpath hparse hrun =>
      have hmid := location_of_runStage hkeeps hrun
      simpa [setSender] using hmid
  | senderRefused path sender mid r hverb hobstacle hpath hparse hrun =>
      have hmid := location_of_runStage hkeeps hrun
      simpa [setSender] using hmid
  | recipientAccepted path recipient mid hverb hsender hroom hpath hparse hrun =>
      rw [← location_of_runStage hkeeps hrun]
      split
      · simp [addRecipient]
      · simp [addRecipient]
  | recipientRefused path recipient mid r hverb hsender hpath hparse hrun =>
      have hmid := location_of_runStage hkeeps hrun
      simpa using hmid
  | quit message hverb => simp [location_close hkeeps]
  | auth _ hverb hobstacle hexchanged => exact hexchanged.location hkeeps
  | proxied header hverb henabled hfirst hparse => exact absurd (.inl hverb) hother
  | xclient attributes hverb henabled hparse => exact absurd (.inr hverb) hother

theorem Ended.location {outcome : BodyOutcome} (hended : Ended service t outcome after) :
    after.location = t.location := by
  have hheld : ∀ {body : List UInt8} {judged : Turn W} {refusal : Option Refusal},
      (t.hold body).runStage service .data = (judged, refusal) → judged.location = t.location := by
    intro body judged refusal hdata
    have hjudged := location_of_runStage hkeeps hdata
    exact hjudged
  cases hended with
  | tooBig => simp
  | bodyRefused body mid r hdata => simp [hheld hdata]
  | messageRefused body judged mid r hdata hhandler =>
      simp [location_of_runStage hkeeps hhandler, hheld hdata]
  | messageAccepted body judged mid hdata hhandler =>
      have hcounted : mid.countMessage.location = mid.location := rfl
      simp [hcounted, location_of_runStage hkeeps hhandler, hheld hdata]

/-- The names are looked up before the first stage runs. -/
theorem Begun.location (hbegun : Begun service t after) :
    after.location = ⟨t.location.address, namesOf service t.location.address.ip⟩ := by
  cases hbegun with
  | refused mid r hrun =>
      have hmid := location_of_runStage hkeeps hrun
      rw [location_close hkeeps, replyRefusal_eq, location_reply, hmid]
      rfl
  | greeted mid hrun =>
      have hmid := location_of_runStage hkeeps hrun
      have htold : (mid.greet service).awaitCommand.location = mid.location := by
        simp [greet, Turn.location]
      rw [htold, hmid]
      rfl

end Kept

section Counted

variable {service : Service W} {t after : Turn W} {line : CommandLine}

theorem conclude_counted {mid : Turn W} (hcommands : mid.commands = t.commands) :
    mid.conclude.phase.underway + mid.conclude.commands = t.commands + 1 := by
  rw [conclude_phase, conclude_commands, Phase.underway, Nat.zero_add, hcommands]

theorem Exchanged.counted (hexchanged : Exchanged service t after) :
    after.phase.underway + after.commands = t.commands + 1 ∧ after.phase ≠ .closed := by
  cases hexchanged with
  | refused | rejected | accepted =>
      exact ⟨conclude_counted rfl, by simp⟩
  | challenged step =>
      have hcommands : (t.challenge step).commands = t.commands := by
        simp only [challenge, reply_commands]
      refine ⟨?_, by simp⟩
      rw [challenge_phase, Phase.underway, hcommands, Nat.add_comm]

/-- A command is counted, at once or when it is over. -/
theorem Handled.counted (hhandled : Handled service line t after) :
    after.phase = .closed ∨ after.phase.underway + after.commands = t.commands + 1 := by
  cases hhandled with
  | refused | idle | reset => exact .inr (conclude_counted rfl)
  | greeted protocol name mid hverb hname hrun =>
      have hmid := (leaves_of_runStage hrun).commands
      exact .inr (conclude_counted hmid)
  | greetingRefused protocol name mid r hverb hname hrun =>
      have hmid := (leaves_of_runStage hrun).commands
      exact .inr (conclude_counted hmid)
  | senderAccepted path sender mid hverb hobstacle hpath hparse hrun =>
      have hmid := (leaves_of_runStage hrun).commands
      exact .inr (conclude_counted hmid)
  | senderRefused path sender mid r hverb hobstacle hpath hparse hrun =>
      have hmid := (leaves_of_runStage hrun).commands
      exact .inr (conclude_counted hmid)
  | recipientAccepted path recipient mid hverb hsender hroom hpath hparse hrun =>
      refine .inr (conclude_counted ?_)
      rw [← (leaves_of_runStage hrun).commands]
      split
      · rfl
      · rfl
  | recipientRefused path recipient mid r hverb hsender hpath hparse hrun =>
      have hmid := (leaves_of_runStage hrun).commands
      exact .inr (conclude_counted hmid)
  | bodyAwaited | handshakeAwaited => exact .inr (Nat.add_comm _ _)
  | quit message hverb => exact .inl close_phase
  | auth _ hverb hobstacle hexchanged => exact .inr hexchanged.counted.1
  | proxied header hverb henabled hfirst hparse => exact .inr (conclude_counted rfl)
  | xclient attributes hverb henabled hparse =>
      have hmoved := moveTo_commands service attributes t
      exact .inr (conclude_counted hmoved)

/-- Only commands that speak for nobody else leave something to be read before they are over. -/
theorem Handled.underway (hhandled : Handled service line t after)
    (hphase : after.phase.underway = 1) : ¬ line.Relocates := by
  cases hhandled with
  | bodyAwaited hverb hsender hrecipients => simp [CommandLine.Relocates, hverb]
  | handshakeAwaited hverb hplain hoffers => simp [CommandLine.Relocates, hverb]
  | auth _ hverb hobstacle hexchanged => simp [CommandLine.Relocates, hverb]
  | quit message hverb => simp [close_phase, Phase.underway] at hphase
  | refused | idle | reset | greeted | greetingRefused | senderAccepted | senderRefused
  | recipientAccepted | recipientRefused | proxied | xclient => simp [Phase.underway] at hphase

theorem Ended.counted {outcome : BodyOutcome} (hended : Ended service t outcome after) :
    after.commands = t.commands + 1 := by
  cases hended with
  | tooBig => rfl
  | bodyRefused body mid r hdata =>
      have hmid := (leaves_of_runStage hdata).commands
      exact congrArg (· + 1) hmid
  | messageRefused body judged mid r hdata hhandler =>
      have hmid := (leaves_of_runStage hhandler).commands.trans (leaves_of_runStage hdata).commands
      exact congrArg (· + 1) hmid
  | messageAccepted body judged mid hdata hhandler =>
      have hmid := (leaves_of_runStage hhandler).commands.trans (leaves_of_runStage hdata).commands
      exact congrArg (· + 1) hmid

end Counted

/-- What is known about a client's whereabouts between two signals. -/
structure Placed (service : Service W) (peer : Endpoint) (t : Turn W) : Prop where
  address : t.location.address = located service peer ((exchanges t.journal).map Exchange.line)
  /-- The names are those of the address, unless they have never been looked up. -/
  names : t.location.names = namesOf service t.location.address.ip ∨
    t.location.names = [] ∧ (t.phase = .opening ∨ t.phase = .closed) ∧
      t.journal.any (Event.starts .connection) = false
  counted : t.phase = .closed ∨
    t.phase.underway + t.commands = taken ((exchanges t.journal).map Exchange.line)
  heard : Heard service (exchanges t.journal)
  /-- A command that goes on speaks for nobody else. -/
  underway : t.phase.underway = 1 → ∀ x ∈ (exchanges t.journal).head?,
    ∀ line ∈ x.line, ¬ line.Relocates

section Placed

variable {service : Service W} {peer : Endpoint} {t after : Turn W}

/-- What is written about the line at hand changes nothing about which lines were heard, unless the
client is greeted by it. -/
theorem Writes.heard {replies : List Reply} (hwrites : Writes t replies after)
    (hquiet : (∀ r ∈ replies, r.code ≠ 220) ∨ ∀ x ∈ (exchanges t.journal).head?,
      ∀ line ∈ x.line, ¬ line.Relocates)
    (hheard : Heard service (exchanges t.journal)) : Heard service (exchanges after.journal) := by
  cases hbefore : exchanges t.journal with
  | nil =>
      rw [hwrites.exchanges_nil hbefore]
      trivial
  | cons x earlier =>
      rw [hbefore] at hheard hquiet
      obtain ⟨y, hafter, hline, hmore⟩ := hwrites.exchanges_cons hbefore
      rw [hafter]
      -- Earlier exchanges are as they were, and the line at hand is heard or not as before.
      refine ⟨?_, hheard.2⟩
      rw [hline, ← hheard.1, Exchange.welcomed_iff, Exchange.welcomed_iff, hline, hmore]
      refine and_congr_right ?_
      rintro ⟨line, hmem, hrelocates⟩
      rcases hquiet with hquiet | hother
      · constructor
        · rintro ⟨r, hr, hcode⟩
          rcases List.mem_append.mp hr with hr | hr
          · exact ⟨r, hr, hcode⟩
          · exact absurd hcode (hquiet r hr)
        · rintro ⟨r, hr, hcode⟩
          exact ⟨r, List.mem_append_left _ hr, hcode⟩
      · exact absurd hrelocates (hother x rfl line hmem)

theorem Writes.placed {replies : List Reply} (hwrites : Writes t replies after)
    (hplaced : Placed service peer t) (htalking : t.phase ≠ .opening ∧ t.phase ≠ .closed)
    (hlocation : after.location = t.location)
    (hquiet : t.phase.underway = 1 ∨ ∀ r ∈ replies, r.code ≠ 220)
    (hcounted : after.phase = .closed ∨
      after.phase.underway + after.commands = t.phase.underway + t.commands)
    (hunderway : after.phase.underway = 1 → t.phase.underway = 1) : Placed service peer after where
  address := by
    rw [hlocation, hwrites.lines_eq]
    exact hplaced.address
  names := by
    rw [hlocation]
    rcases hplaced.names with hnames | ⟨-, hphase, -⟩
    · exact .inl hnames
    · rcases hphase with hphase | hphase
      · exact absurd hphase htalking.1
      · exact absurd hphase htalking.2
  counted := by
    rw [hwrites.lines_eq]
    rcases hcounted with hclosed | hcounted
    · exact .inl hclosed
    · rcases hplaced.counted with hclosed | hbefore
      · exact absurd hclosed htalking.2
      · exact .inr (hcounted.trans hbefore)
  heard := by
    refine hwrites.heard ?_ hplaced.heard
    rcases hquiet with hphase | hother
    · exact .inr (hplaced.underway hphase)
    · exact .inl hother
  underway := by
    intro hphase x hx line hline
    cases hbefore : exchanges t.journal with
    | nil =>
        rw [hwrites.exchanges_nil hbefore] at hx
        cases hx
    | cons y earlier =>
        obtain ⟨z, hafter, hsame, -⟩ := hwrites.exchanges_cons hbefore
        rw [hafter] at hx
        cases hx
        have hother := hplaced.underway (hunderway hphase)
        rw [hbefore] at hother
        exact hother y rfl line (hsame ▸ hline)

/-- A connection that breaks off leaves the client where it is. -/
theorem Writes.placed_close (hkeeps : service.Keeps fun tx _ => tx.peer.location)
    {replies : List Reply} {told : Turn W} (hwrites : Writes t replies told)
    (hplaced : Placed service peer t) (htalking : t.phase ≠ .opening ∧ t.phase ≠ .closed)
    (hlocation : told.location = t.location) (hquiet : ∀ r ∈ replies, r.code ≠ 220) :
    Placed service peer (told.close service) := by
  have hclosed : Writes t replies (told.close service) := by
    rw [← List.append_nil replies]
    exact hwrites.trans (writes_close service told)
  refine hclosed.placed hplaced htalking ?_ (.inr hquiet) (.inl close_phase) ?_
  · rw [location_close hkeeps, hlocation]
  · rw [close_phase, Phase.underway]
    exact fun hbusy => nomatch hbusy

/-- What a command is answered with, and where the client is behind it. -/
structure Obeyed (service : Service W) (line : CommandLine) (t : Turn W) (r : Reply)
    (after : Turn W) : Prop where
  writes : Writes (t.note (.command line)) [r] after
  code : line.Relocates → (r.code = 220 ↔ (line.heard? service (t.commands = 0)).isSome)
  location : after.location =
    movedBy service (line.heard? service (t.commands = 0)).join t.location
  counted : after.phase = .closed ∨ after.phase.underway + after.commands = t.commands + 1
  underway : after.phase.underway = 1 → ¬ line.Relocates

theorem Hears.obeyed {line : CommandLine} (hhears : Hears service (t.note (.command line))
    (line.heard? service (t.commands = 0)) after) : ∃ r, Obeyed service line t r after := by
  obtain ⟨r, hwrites, hcode, hnext, hcommands, hlocation⟩ := hhears.told
  refine ⟨r, hwrites, fun _ => hcode, hlocation, ?_, ?_⟩
  · right
    rw [hnext, hcommands, Phase.underway, Nat.zero_add]
    rfl
  · simp [hnext, Phase.underway]

theorem dispatch_obeyed (hkeeps : service.Keeps fun tx _ => tx.peer.location) (line : CommandLine)
    (t : Turn W) : ∃ r, Obeyed service line t r (t.dispatch service line) := by
  by_cases hrelocates : line.Relocates
  · rcases hrelocates with hverb | hverb
    · have hproxy : t.dispatch service line = (t.note (.command line)).proxy service line := by
        simp only [dispatch, hverb, execute]
      rw [hproxy]
      exact (proxy_hears hverb).obeyed
    · have hxclient : t.dispatch service line = (t.note (.command line)).xclient service line := by
        simp only [dispatch, hverb, execute]
      rw [hxclient]
      exact (xclient_hears hverb _).obeyed
  · have hhandled := dispatch_handled service t line
    obtain ⟨r, hwrites, -⟩ := hhandled.writes
    have hlocation := hhandled.location hkeeps hrelocates
    refine ⟨r, hwrites, fun h => absurd h hrelocates, ?_, hhandled.counted, fun _ => hrelocates⟩
    rw [CommandLine.heard?_of_other hrelocates]
    exact hlocation

/-- A command is taken up. -/
theorem Placed.dispatch (hkeeps : service.Keeps fun tx _ => tx.peer.location)
    (hplaced : Placed service peer t) {reader : LineReader} (hphase : t.phase = .command reader)
    (line : CommandLine) : Placed service peer (t.dispatch service line) := by
  obtain ⟨r, hobeyed⟩ := dispatch_obeyed hkeeps line t
  have hbefore : exchanges (t.note (.command line)).journal =
      ⟨some line, []⟩ :: exchanges t.journal := rfl
  obtain ⟨y, hexchanges, hline, hreplies⟩ := hobeyed.writes.exchanges_cons hbefore
  have hcommands : t.commands = taken ((exchanges t.journal).map Exchange.line) := by
    rcases hplaced.counted with hclosed | hcommands
    · simp [hphase] at hclosed
    · rw [hphase, Phase.underway, Nat.zero_add] at hcommands
      exact hcommands
  have hheard : lineHeard? service ((exchanges t.journal).map Exchange.line) (some line) =
      line.heard? service (t.commands = 0) := by
    rw [lineHeard?, Option.bind_some, hcommands]
  have hnames : t.location.names = namesOf service t.location.address.ip := by
    rcases hplaced.names with hnames | ⟨-, hearly, -⟩
    · exact hnames
    · simp [hphase] at hearly
  have hlines : (exchanges (t.dispatch service line).journal).map Exchange.line =
      some line :: (exchanges t.journal).map Exchange.line := by
    rw [hexchanges, List.map_cons, hline]
  refine ⟨?_, .inl ?_, ?_, ?_, ?_⟩
  · rw [hlines, located, hheard, hobeyed.location, ← hplaced.address]
    cases (line.heard? service (t.commands = 0)).join with
    | none => rfl
    | some address => rfl
  · rw [hobeyed.location]
    cases (line.heard? service (t.commands = 0)).join with
    | none => exact hnames
    | some address => rfl
  · rw [hlines]
    rcases hobeyed.counted with hclosed | hcounted
    · exact .inl hclosed
    · right
      rw [hcounted, hcommands, taken, taken, List.countP_cons_of_pos rfl]
  · rw [hexchanges]
    refine ⟨?_, hplaced.heard⟩
    rw [hline, hheard, Exchange.welcomed_iff, hline, hreplies]
    by_cases hrelocates : line.Relocates
    · rw [← hobeyed.code hrelocates]
      simp [Exchange.replies, hrelocates]
    · rw [CommandLine.heard?_of_other hrelocates]
      simp [hrelocates]
  · rw [hexchanges]
    intro hbusy x hx command hcommand
    cases hx
    rw [hline] at hcommand
    cases hcommand
    exact hobeyed.underway hbusy

/-- A client is looked up when it is let in. -/
theorem Placed.begun (hkeeps : service.Keeps fun tx _ => tx.peer.location)
    (hplaced : Placed service peer t) (hphase : t.phase = .opening) (hjournal : t.journal = [])
    {told : Turn W} (hbegun : Begun service told after) (hlocation : told.location = t.location)
    (hsilent : told.journal = t.journal) (hsame : told.commands = t.commands) :
    Placed service peer after := by
  have hnone : exchanges told.journal = [] := by
    rw [hsilent, hjournal]
    rfl
  have hafter : exchanges after.journal = [] := by
    rcases hbegun.writes with ⟨hwrites, -⟩ | ⟨r, hwrites, -, -⟩
    · exact hwrites.exchanges_nil hnone
    · exact hwrites.exchanges_nil hnone
  have haddress := hplaced.address
  have hcounted := hplaced.counted
  rw [hjournal] at haddress hcounted
  have hcommands : t.commands = 0 := by
    simpa [hphase, Phase.underway, taken, exchanges, exchangesWith] using hcounted
  refine ⟨?_, .inl ?_, ?_, ?_, ?_⟩
  · rw [hafter, hbegun.location hkeeps, hlocation]
    exact haddress
  · rw [hbegun.location hkeeps]
  · rw [hafter]
    cases hbegun with
    | refused mid r hrun => exact .inl close_phase
    | greeted mid hrun =>
        have hmid := (leaves_of_runStage hrun).commands
        have hstill : mid.commands = 0 := hmid.trans (hsame.trans hcommands)
        exact .inr (by simp [greet, Phase.underway, awaitCommand, hstill, taken])
  · rw [hafter]
    trivial
  · rw [hafter]
    intro _ x hx
    cases hx

/-- A connection that opens with a handshake has ended before the client was let in. -/
theorem Placed.dismissed (hkeeps : service.Keeps fun tx _ => tx.peer.location)
    (hplaced : Placed service peer t) (hjournal : t.journal = []) {told : Turn W}
    (hlocation : told.location = t.location) (hsilent : told.journal = t.journal) :
    Placed service peer (told.close service) := by
  have hwrites : Writes t [] (told.close service) :=
    (Writes.of_journal hsilent).trans (writes_close service told)
  have hnone : exchanges (told.close service).journal = [] :=
    hwrites.exchanges_nil (by rw [hjournal]; rfl)
  have haddress := hplaced.address
  rw [hjournal] at haddress
  refine ⟨?_, ?_, .inl close_phase, ?_, ?_⟩
  · rw [hnone, location_close hkeeps, hlocation]
    exact haddress
  · rw [location_close hkeeps, hlocation]
    rcases hplaced.names with hnames | ⟨hnames, -, -⟩
    · exact .inl hnames
    · refine .inr ⟨hnames, .inr close_phase, ?_⟩
      cases hrun : told.runStage service .close with
      | mk closed refusal =>
          obtain ⟨newer, hnewer, hevents⟩ := newer_of_runStage hrun
          rw [close_eq service told hrun, List.any_eq_false]
          intro e he
          have hmem : e ∈ newer := by
            simpa [hnewer, hsilent, hjournal] using he
          rcases hevents e hmem with ⟨tx, rfl⟩ | ⟨place, answer, rfl⟩
          · simp [Event.starts]
          · simp [Event.starts]
  · rw [hnone]
    trivial
  · rw [hnone]
    intro _ x hx
    cases hx

theorem Handled.phase_ne_opening {line : CommandLine} (hhandled : Handled service line t after) :
    after.phase ≠ .opening := by
  cases hhandled with
  | auth _ hverb hobstacle hexchanged =>
      cases hexchanged with
      | refused | challenged | rejected | accepted => simp
  | quit message hverb => simp [close_phase]
  | refused | idle | reset | greeted | greetingRefused | senderAccepted | senderRefused
  | recipientAccepted | recipientRefused | bodyAwaited | handshakeAwaited | proxied | xclient =>
      simp

/-- Nothing is written down before a connection is past its opening. -/
theorem Move.unopened {signal : Signal} (hmove : Move service t signal after)
    (hsilent : t.phase = .opening → t.journal = []) (hphase : after.phase = .opening) :
    after.journal = [] := by
  cases hmove with
  | unheard | unasked | finished => exact hsilent hphase
  | passed b phase hpasses =>
      have hopening : phase = .opening := hphase
      subst hopening
      generalize t.phase = before at hpasses
      cases hpasses
  | overlong | upgraded => simp [Turn.upgraded] at hphase
  | handled reader text _ hcommand hline hhandled =>
      exact absurd hphase hhandled.phase_ne_opening
  | exchanged step reader _ hresponse hexchanged =>
      cases hexchanged with
      | refused | challenged | rejected | accepted => simp at hphase
  | bodyEnded b outcome _ hread hended =>
      obtain ⟨r, -, hnext, -⟩ := hended.writes
      simp [hnext] at hphase
  | opened h _ hopening hbegun =>
      rcases hbegun.writes with ⟨-, hnext⟩ | ⟨r, -, hnext, -⟩
      · simp [hnext] at hphase
      · simp [hnext] at hphase
  | openingFailed | upgradeFailed | ended | timedOut | expired => simp [close_phase] at hphase

theorem Placed.heed (hkeeps : service.Keeps fun tx _ => tx.peer.location) (signal : Signal)
    (hplaced : Placed service peer t) (hsilent : t.phase = .opening → t.journal = []) :
    Placed service peer (t.heed service signal) := by
  have hmove := heed_move service t signal
  generalize hafter : t.heed service signal = after at hmove
  cases hmove with
  | unheard b hphase => exact hplaced
  | unasked result hphase => exact hplaced
  | finished signal hphase => exact hplaced
  | passed b phase hpasses =>
      have hsame : phase.underway = t.phase.underway ∧ t.phase ≠ .opening ∧ t.phase ≠ .closed := by
        generalize t.phase = before at hpasses
        cases hpasses with
        | command | response | body => exact ⟨rfl, by simp, by simp⟩
      have hwrites : Writes t [] (t.passByte phase) := .of_journal rfl
      exact hwrites.placed hplaced hsame.2 rfl (.inr (List.forall_mem_nil _))
        (.inr (congrArg (· + t.commands) hsame.1)) (fun h => hsame.1 ▸ h)
  | overlong reader hphase hline =>
      have hnoted : Placed service peer ((t.countRead 1).note .overlong) := by
        refine ⟨hplaced.address, ?_, hplaced.counted, ⟨?_, hplaced.heard⟩, ?_⟩
        · exact hplaced.names
        · simp [Exchange.welcomed_iff, lineHeard?]
        · simp [hphase, Phase.underway]
      have htold : Writes ((t.countRead 1).note .overlong) [⟨500, "5.5.2 Line too long"⟩]
          (((t.countRead 1).note .overlong).refuse Karma.badParameter 500
            "5.5.2 Line too long").awaitCommand := .of_reply (by simp)
      refine htold.placed hnoted (by simp [hphase]) (by simp) (.inr (by simp)) (.inr ?_) ?_
      · rw [awaitCommand_phase, note_phase, countRead_phase, hphase, Phase.underway,
          Phase.underway]
        rfl
      · simp [Phase.underway]
  | handled reader text _ hphase hline hhandled =>
      have htaken : (t.countRead 1).dispatch service (CommandLine.parse text) = after := by
        rw [← hafter]
        simp only [Turn.heed, takeByte, hphase, if_true, hline, takeLine]
      have hread : Placed service peer (t.countRead 1) := ⟨hplaced.address, hplaced.names,
        hplaced.counted, hplaced.heard, hplaced.underway⟩
      rw [← htaken]
      exact hread.dispatch hkeeps hphase _
  | exchanged step reader _ hphase hexchanged =>
      obtain ⟨r, hwrites, -⟩ := hexchanged.writes
      have htold : Writes t [r] after := (Writes.of_journal rfl).trans hwrites
      have hbusy : t.phase.underway = 1 := by rw [hphase, Phase.underway]
      have hcommands : after.phase.underway + after.commands = t.commands + 1 :=
        hexchanged.counted.1
      have hsame : after.location = t.location := by
        rw [hexchanged.location hkeeps, location_countRead]
      refine htold.placed hplaced (by simp [hphase]) hsame (.inl hbusy) ?_ (fun _ => hbusy)
      right
      rw [hcommands, hbusy, Nat.add_comm]
  | bodyEnded b outcome _ hread hended =>
      obtain ⟨decoder, hphase, -, -⟩ := hread
      obtain ⟨r, hwrites, hnext, -⟩ := hended.writes
      have htold : Writes t [r] after := (Writes.of_journal rfl).trans hwrites
      have hbusy : t.phase.underway = 1 := by rw [hphase, Phase.underway]
      have hcommands : after.commands = t.commands + 1 := hended.counted
      have hsame : after.location = t.location := by
        rw [hended.location hkeeps, location_countRead]
      refine htold.placed hplaced (by simp [hphase]) hsame (.inl hbusy) ?_ (fun _ => hbusy)
      right
      rw [hnext, hcommands, hbusy, Phase.underway, Nat.zero_add, Nat.add_comm]
  | opened h _ hphase hbegun =>
      exact hplaced.begun hkeeps hphase (hsilent hphase) hbegun rfl rfl rfl
  | openingFailed signal hphase hsignal =>
      exact hplaced.dismissed hkeeps (hsilent hphase) rfl rfl
  | upgraded h hphase =>
      have hwrites : Writes t [] (t.upgraded h) := .of_journal rfl
      have hbusy : t.phase.underway = 1 := by rw [hphase, Phase.underway]
      have hcommands : (t.upgraded h).phase.underway + (t.upgraded h).commands =
          t.commands + 1 := conclude_counted rfl
      refine hwrites.placed hplaced (by simp [hphase]) rfl (.inl hbusy) ?_ (fun _ => hbusy)
      right
      rw [hcommands, hbusy, Nat.add_comm]
  | upgradeFailed signal hphase hsignal =>
      have htold : Writes t [⟨550, "Handshake error"⟩]
          (t.refuse Karma.handshakeFailed 550 "Handshake error").countCommand := .of_reply (by simp)
      exact htold.placed_close hkeeps hplaced (by simp [hphase]) (by simp) (by simp)
  | ended hphase =>
      have hquiet : Writes t [] t := .of_journal rfl
      exact hquiet.placed_close hkeeps hplaced ⟨hphase.1, hphase.2.2⟩ rfl (List.forall_mem_nil _)
  | timedOut hphase =>
      have htold : Writes t [⟨421, "Connection timed out."⟩]
          (t.reply 421 "Connection timed out.") := .of_reply (by simp)
      have htalking : t.phase ≠ .opening ∧ t.phase ≠ .closed := by
        rcases hphase with ⟨reader, hphase⟩ | ⟨step, reader, hphase⟩
        · simp [hphase]
        · simp [hphase]
      exact htold.placed_close hkeeps hplaced htalking (by simp) (by simp)
  | expired hphase =>
      rcases hphase with hphase | hphase
      · exact hplaced.dismissed hkeeps (hsilent hphase) rfl rfl
      · have htalking : t.phase ≠ .opening ∧ t.phase ≠ .closed := by
          rcases hphase with hphase | ⟨decoder, hphase⟩
          · simp [hphase]
          · simp [hphase]
        have hquiet : Writes t [] t := .of_journal rfl
        exact hquiet.placed_close hkeeps hplaced htalking rfl (List.forall_mem_nil _)

theorem start_placed (hkeeps : service.Keeps fun tx _ => tx.peer.location) {tx : Transaction}
    (hlocation : tx.peer.location = ⟨peer, []⟩) (world : W) :
    let t := Turn.start service tx world
    Placed service peer t ∧ (t.phase = .opening → t.journal = []) := by
  intro t
  have hunopened : Placed service peer { transaction := tx, phase := .opening, world } := by
    refine ⟨?_, .inr ⟨?_, .inl rfl, rfl⟩, .inr rfl, trivial, by simp [Phase.underway]⟩
    · exact congrArg Location.address hlocation
    · exact congrArg Location.names hlocation
  generalize hstarted : t = started
  simp only [t, Turn.start] at hstarted
  split at hstarted
  · subst hstarted
    exact ⟨hunopened, fun _ => rfl⟩
  · have hbegun := begin_begun service { transaction := tx, phase := .opening, world }
    rw [hstarted] at hbegun
    refine ⟨hunopened.begun hkeeps rfl rfl hbegun rfl rfl rfl, ?_⟩
    rcases hbegun.writes with ⟨-, hnext⟩ | ⟨r, -, hnext, -⟩
    · simp [hnext]
    · simp [hnext]

theorem heedAll_placed (hkeeps : service.Keeps fun tx _ => tx.peer.location)
    (signals : List Signal) (hplaced : Placed service peer t)
    (hsilent : t.phase = .opening → t.journal = []) :
    Placed service peer (t.heedAll service signals) := by
  induction signals generalizing t with
  | nil => exact hplaced
  | cons signal signals ih =>
      exact ih (hplaced.heed hkeeps signal hsilent) (heed_move service t signal |>.unopened hsilent)

/-- The names of an address are none or what the resolver has found. -/
theorem namesOf_cases (service : Service W) (ip : Ip) :
    namesOf service ip = [] ∨ service.settings.skipReverseDns = false ∧
      service.resolver.names ip = .found (namesOf service ip) := by
  rw [namesOf]
  split
  · exact .inl rfl
  · next hskip =>
      cases service.resolver.names ip with
      | found names => exact .inr ⟨by simpa using hskip, rfl⟩
      | failed | pending => exact .inl rfl

/-- Where a client is, in every state between two commands and whatever it sends, if no checker
changes that.  It is where its connection comes from, or where the last line said that was heard and
gave an address in full.  A line is heard if it is a well-formed PROXY, enabled and sent before any
other command, or a well-formed XCLIENT, enabled; these are the lines that the client was greeted
for, and one PROXY at most is among them.  When the names have been looked up they are those of this
address, which are none or what the resolver has found, and none if nothing is looked up. -/
theorem run_remoteAddr_located (hkeeps : service.Keeps fun tx _ => tx.peer.location)
    (id : TransactionId) (serverHostname : String) (localAddr : Endpoint) (world : W)
    (inputs : List Input) :
    let start := Turn.start service (.start id serverHostname localAddr peer) world
    let t := start.run service inputs
    let lines := start.linesFrom service (inputs.flatMap Input.signals)
    let p := t.transaction.peer
    p.remoteAddr = located service peer lines.reverse ∧
      (exchanges t.journal).reverse.map Exchange.line = lines ∧
      (∀ newer x earlier, exchanges t.journal = newer ++ x :: earlier →
        (x.welcomed ↔ (lineHeard? service (earlier.map Exchange.line) x.line).isSome)) ∧
      (exchanges t.journal).countP (fun x => x.answered .proxy 220) ≤ 1 ∧
      ((∃ tx, .stage .connection tx ∈ t.journal) → p.ptrs = namesOf service p.remoteAddr.ip) ∧
      (p.ptrs = [] ∨ service.settings.skipReverseDns = false ∧
        service.resolver.names p.remoteAddr.ip = .found p.ptrs) ∧
      (service.settings.enableProxyProtocol = false → service.settings.enableXclient = false →
        p.remoteAddr = peer) := by
  intro start t lines p
  have hlocation : (Transaction.start id serverHostname localAddr peer).peer.location =
      ⟨peer, []⟩ := rfl
  obtain ⟨hstart, hsilent⟩ := start_placed hkeeps hlocation world
  have hrun : start.heedAll service (inputs.flatMap Input.signals) = t :=
    (run_eq_heedAll service start inputs).symm
  have hplaced : Placed service peer t := by
    rw [← hrun]
    exact heedAll_placed hkeeps _ hstart hsilent
  have hlines : (exchanges t.journal).reverse.map Exchange.line = lines := by
    rw [← hrun]
    exact heedAll_lines (start_exchanges service _ world) _
  have haddress : p.remoteAddr = located service peer lines.reverse := by
    rw [← hlines, List.map_reverse, List.reverse_reverse]
    exact hplaced.address
  refine ⟨haddress, hlines, ?_, hplaced.heard.proxies, ?_, ?_, ?_⟩
  · intro newer x earlier hexchanges
    have hheard := hplaced.heard
    rw [hexchanges] at hheard
    exact hheard.at
  · rintro ⟨tx, hmem⟩
    rcases hplaced.names with hnames | ⟨-, -, hnone⟩
    · exact hnames
    · have hstage := List.any_eq_false.mp hnone _ hmem
      simp [Event.starts] at hstage
  · rcases hplaced.names with hnames | ⟨hnames, -, -⟩
    · have hptrs : p.ptrs = namesOf service p.remoteAddr.ip := hnames
      rw [hptrs]
      exact namesOf_cases service p.remoteAddr.ip
    · exact .inl hnames
  · intro hproxy hxclient
    rw [haddress, located_of_disabled hproxy hxclient]

end Placed

end Turn

namespace Sample

/-- An address for examples. -/
def address (last : UInt8) : Ip :=
  .v4 ⟨192, 0, 2, last⟩

/-- A service that lets a proxy and trusted clients speak for others and knows names of two
addresses. -/
def trusting : Service Office :=
  { hostname := "mx"
    settings := { enableProxyProtocol := true, enableXclient := true }
    resolver := .ofTable [(address 1, some ["one.test"]), (address 2, some ["two.test"])] }

/-- A proxy and then a trusted client speak for others; the last two lines are not heard. -/
def relayed : List UInt8 :=
  Text.Utf8.encode ("PROXY TCP4 192.0.2.1 192.0.2.9 4001 25\r\n"
    ++ "XCLIENT ADDR=192.0.2.2 PORT=4002\r\n"
    ++ "PROXY TCP4 192.0.2.3 192.0.2.9 4003 25\r\nXCLIENT ADDR=192.0.2.4 PORT=none\r\n")

theorem trusting_keeps {A : Type u} (view : Transaction → A) :
    trusting.Keeps fun tx _ => view tx where
  stages stage checker hchecker := by
    cases stage with
    | connection | helo | sender | recipient candidate | data | handler | close => cases hchecker
  authenticator _ hauthenticator := nomatch hauthenticator

end Sample

namespace Turn

theorem run_remoteAddr_located_relayed :
    let start :=
      Turn.start Sample.trusting (.start ⟨1⟩ "mx" Sample.place Sample.place) Sample.office
    let t := start.run Sample.trusting [.bytes Sample.relayed]
    let lines := start.linesFrom Sample.trusting ([.bytes Sample.relayed].flatMap Input.signals)
    located Sample.trusting Sample.place lines.reverse = ⟨Sample.address 2, 4002⟩ ∧
      t.transaction.peer.remoteAddr = ⟨Sample.address 2, 4002⟩ ∧
      t.transaction.peer.ptrs = ["two.test"] ∧
      (exchanges t.journal).map Exchange.welcomed = [false, false, true, true] := by
  intro start t lines
  obtain ⟨hlocated, -⟩ := @run_remoteAddr_located Office Sample.trusting Sample.place
    (Sample.trusting_keeps _) ⟨1⟩ "mx" Sample.place Sample.office [.bytes Sample.relayed]
  obtain ⟨haddress, hnames, hwelcomed⟩ :
      t.transaction.peer.remoteAddr = ⟨Sample.address 2, 4002⟩ ∧
        t.transaction.peer.ptrs = ["two.test"] ∧
        (exchanges t.journal).map Exchange.welcomed = [false, false, true, true] := by
    decide +kernel
  exact ⟨hlocated.symm.trans haddress, haddress, hnames, hwelcomed⟩

end Turn
end MailIntake
