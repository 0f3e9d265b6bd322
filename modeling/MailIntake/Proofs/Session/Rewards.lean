import MailIntake.Proofs.Session.Aliases
import MailIntake.Proofs.Session.Faults
import MailIntake.Proofs.Session.Lines
import MailIntake.Proofs.Session.Outstanding
/-!
What clients earn.  A greeting, a sender and a message earn karma when they are accepted, and so
does the first recipient of an envelope; what an envelope is can be read from the history
(`envelopes`).  The rewards of a run are what its history is worth, and karma is these rewards less
the price of every fault (`run_karma_ledger`).
-/
namespace MailIntake

universe u

variable {W : Type u}

/-- Whether an event is a refusal.  The last stage has nothing to refuse any more. -/
def Event.denies : Event → Bool
  | .checked .close _ _ => false
  | .checked _ _ refusal => refusal.isSome
  | _ => false

/-- Before the last stage every refusal counts. -/
theorem Event.denies_eq {e : Event} (he : ¬ e.OfStage .close) : e.denies = e.refuses := by
  cases e with
  | checked stage place refusal =>
      cases stage with
      | close => exact absurd (.inr ⟨place, refusal, rfl⟩) he
      | connection | helo | sender | recipient candidate | data | handler =>
          cases refusal with
          | none => rfl
          | some r => rfl
  | command | overlong | stage | authenticated | replied => rfl

theorem Event.any_denies_eq {events : List Event} (hevents : ∀ e ∈ events, ¬ e.OfStage .close) :
    events.any Event.denies = events.any Event.refuses := by
  induction events with
  | nil => rfl
  | cons e events ih =>
      rw [List.forall_mem_cons] at hevents
      rw [List.any_cons, List.any_cons, Event.denies_eq hevents.1, ih hevents.2]

namespace Exchange

/-- Whether the client asked for something and had it: the answer was 250, and nobody refused. -/
def granted (verb : CommandLine.Verb) (x : Exchange) : Bool :=
  x.answered verb 250 && !x.events.any Event.denies

def greets (x : Exchange) : Bool :=
  x.granted .helo || x.granted .ehlo

/-- Whether an exchange leaves the envelope empty: a greeting, a reset, a handshake and a message do
so. -/
def clears (x : Exchange) : Bool :=
  x.greets || x.asks .rset || x.answered .startTls 220 || x.answered .data 354

end Exchange

/-- The exchanges about one envelope after the other, the latest first. -/
def envelopes (history : List Exchange) : List (List Exchange) :=
  history.splitOnP Exchange.clears

/-- What a history is worth: every greeting, every sender, every envelope with a recipient and every
message counts once. -/
def worth (history : List Exchange) : Nat :=
  history.countP Exchange.greets + history.countP (Exchange.granted .mail) +
    (envelopes history).countP (List.any · (Exchange.granted .rcpt)) +
    history.countP (Exchange.granted .data)

/-- Whether there is a recipient since the envelope was last empty. -/
def addressed (history : List Exchange) : Bool :=
  (history.takeWhile fun x => !x.clears).any (Exchange.granted .rcpt)

section History

variable {history : List Exchange} {x : Exchange}

theorem addressed_of_clears (hclears : x.clears) : addressed (x :: history) = false := by
  rw [addressed, List.takeWhile_cons_of_neg (by simpa using hclears), List.any_nil]

theorem addressed_cons (hclears : x.clears = false) :
    addressed (x :: history) = (x.granted .rcpt || addressed history) := by
  rw [addressed, List.takeWhile_cons_of_pos (by simp [hclears]), List.any_cons, ← addressed]

/-- The latest envelope is about the exchanges since it was last empty. -/
theorem envelopes_eq (history : List Exchange) : ∃ earlier,
    envelopes history = (history.takeWhile fun x => !x.clears) :: earlier := by
  induction history with
  | nil => exact ⟨[], rfl⟩
  | cons x history ih =>
      obtain ⟨earlier, hearlier⟩ := ih
      rw [envelopes, List.splitOnP_cons_eq_if_modifyHead]
      by_cases hclears : x.clears
      · rw [if_pos hclears, List.takeWhile_cons_of_neg (by simpa using hclears)]
        exact ⟨_, rfl⟩
      · rw [if_neg hclears, List.takeWhile_cons_of_pos (by simpa using hclears), ← envelopes,
          hearlier]
        exact ⟨earlier, rfl⟩

theorem envelopes_of_clears (hclears : x.clears) :
    envelopes (x :: history) = [] :: envelopes history := by
  rw [envelopes, List.splitOnP_cons_eq_if_modifyHead, if_pos hclears, ← envelopes]

/-- The first recipient of an envelope makes it one with a recipient. -/
theorem countP_envelopes_cons (hclears : x.clears = false) :
    (envelopes (x :: history)).countP (List.any · (Exchange.granted .rcpt)) =
      (envelopes history).countP (List.any · (Exchange.granted .rcpt)) +
        (x.granted .rcpt && !addressed history).toNat := by
  obtain ⟨earlier, hearlier⟩ := envelopes_eq history
  rw [envelopes, List.splitOnP_cons_eq_if_modifyHead, if_neg (by simp [hclears]), ← envelopes,
    hearlier, List.modifyHead_cons, List.countP_cons, List.countP_cons, List.any_cons, ← addressed]
  cases x.granted .rcpt <;> cases addressed history <;> simp

/-- What an exchange adds to the worth of a history. -/
theorem worth_cons (x : Exchange) (history : List Exchange) :
    worth (x :: history) = worth history + (x.greets.toNat + (x.granted .mail).toNat +
      (!x.clears && x.granted .rcpt && !addressed history).toNat +
        (x.granted .data).toNat) := by
  have hcount (p : Exchange → Bool) :
      (x :: history).countP p = history.countP p + (p x).toNat := by
    rw [List.countP_cons]
    cases p x <;> rfl
  have henvelopes : (envelopes (x :: history)).countP (List.any · (Exchange.granted .rcpt)) =
      (envelopes history).countP (List.any · (Exchange.granted .rcpt)) +
        (!x.clears && x.granted .rcpt && !addressed history).toNat := by
    by_cases hclears : x.clears
    · rw [envelopes_of_clears hclears, List.countP_cons, hclears]
      simp
    · rw [Bool.not_eq_true] at hclears
      rw [countP_envelopes_cons hclears, hclears]
      simp
  rw [worth, worth, hcount, hcount, hcount, henvelopes]
  omega

end History

namespace Exchange

/-- An exchange that has nothing to do with envelopes, or in which nothing was granted. -/
structure Idle (x : Exchange) : Prop where
  clears : x.clears = false
  mail : x.granted .mail = false
  rcpt : x.granted .rcpt = false
  data : x.granted .data = false

theorem greets_of_clears {x : Exchange} (hclears : x.clears = false) : x.greets = false := by
  simp only [Exchange.clears, Bool.or_eq_false_iff] at hclears
  exact hclears.1.1.1

theorem Idle.worth_eq {x : Exchange} (hidle : x.Idle) (history : List Exchange) :
    worth (x :: history) = worth history := by
  simp [worth_cons, greets_of_clears hidle.clears, hidle.mail, hidle.rcpt, hidle.data]

theorem Idle.addressed_eq {x : Exchange} (hidle : x.Idle) (history : List Exchange) :
    addressed (x :: history) = addressed history := by
  rw [addressed_cons hidle.clears, hidle.rcpt, Bool.false_or]

/-- What a client did not ask for it is not granted. -/
theorem granted_of_asks {x : Exchange} {verb : CommandLine.Verb} (hasks : x.asks verb = false) :
    x.granted verb = false := by
  rw [granted, answered, hasks, Bool.false_and, Bool.false_and]

/-- Other commands have nothing to do with envelopes. -/
theorem idle_of_asks {x : Exchange} (hasks : ∀ verb ∈ [CommandLine.Verb.helo, .ehlo, .mail, .rcpt,
    .data, .rset, .startTls], x.asks verb = false) : x.Idle where
  clears := by
    have hdata : x.asks .data = false := hasks _ (by simp)
    have htls : x.asks .startTls = false := hasks _ (by simp)
    simp [clears, greets, granted_of_asks (hasks .helo (by simp)),
      granted_of_asks (hasks .ehlo (by simp)), hasks .rset (by simp), answered, hdata, htls]
  mail := granted_of_asks (hasks _ (by simp))
  rcpt := granted_of_asks (hasks _ (by simp))
  data := granted_of_asks (hasks _ (by simp))

/-- The last stage has no part in an exchange. -/
def Unclosed (x : Exchange) : Prop :=
  ∀ e ∈ x.events, ¬ e.OfStage .close

theorem Unclosed.any_denies {x : Exchange} (hunclosed : x.Unclosed) :
    x.events.any Event.denies = x.events.any Event.refuses :=
  Event.any_denies_eq hunclosed

theorem Unclosed.granted_eq {x : Exchange} (hunclosed : x.Unclosed) (verb : CommandLine.Verb) :
    x.granted verb = x.accepted verb := by
  rw [granted, hunclosed.any_denies, accepted]

theorem Unclosed.clears_eq {x : Exchange} (hunclosed : x.Unclosed) : x.clears = x.empties := by
  rw [clears, greets, hunclosed.granted_eq, hunclosed.granted_eq, empties]

end Exchange

namespace Turn

variable {service : Service W} {t after : Turn W} {line : CommandLine} {older : List Event}
  {x : Exchange}

/-- A command that is answered at once. -/
theorem reports_of_reply (hjournal : t.journal = .command line :: older) (code : UInt16)
    (message : String) : ∃ x : Exchange, x.Reports line code false ∧ x.Unclosed ∧
      exchanges (.replied ⟨code, message⟩ :: t.journal) = x :: exchanges older := by
  obtain ⟨x, hreports, hexchanges⟩ := exchanges_of_reply hjournal code message
  have hnewer : ∀ e ∈ [Event.replied ⟨code, message⟩], e.continues := by simp [Event.continues]
  have hshape := exchanges_command hnewer line older
  refine ⟨x, hreports, ?_, hexchanges⟩
  rw [hjournal] at hexchanges
  cases hexchanges.symm.trans hshape
  simp [Exchange.Unclosed, Event.OfStage]

/-- A command that is answered behind a stage. -/
theorem reports_of_runStage {stage : Stage} {refusal : Option Refusal}
    (hjournal : t.journal = .command line :: older)
    (hrun : t.runStage service stage = (after, refusal)) (hstage : stage ≠ .close) (code : UInt16)
    (message : String) : ∃ x : Exchange, x.Reports line code refusal.isSome ∧ x.Unclosed ∧
      exchanges (.replied ⟨code, message⟩ :: after.journal) = x :: exchanges older := by
  obtain ⟨x, hreports, hexchanges⟩ := exchanges_of_runStage hjournal hrun code message
  obtain ⟨events, hafter, hevents⟩ := newer_of_runStage hrun
  have hnewer : ∀ e ∈ .replied ⟨code, message⟩ :: events, e.continues :=
    List.forall_mem_cons.mpr ⟨rfl, fun e he => (hevents e he).continues⟩
  have hshape := exchanges_command hnewer line older
  refine ⟨x, hreports, ?_, hexchanges⟩
  rw [hafter, hjournal] at hexchanges
  cases hexchanges.symm.trans hshape
  intro e he hclose
  rcases List.mem_cons.mp (List.mem_reverse.mp he) with rfl | he
  · rcases hclose with ⟨tx, hclose⟩ | ⟨place, answer, hclose⟩
    · cases hclose
    · cases hclose
  · exact hstage ((hevents e he).unique hclose)

end Turn

/-- An event that grants nothing and takes nothing back. -/
structure Event.Mute (e : Event) : Prop where
  continues : e.continues
  answers : ∀ code ∈ [(220 : UInt16), 250, 354], e.answers code = false
  denies : e.denies = false

theorem Event.mute_of_stage {e : Event} (he : e.OfStage .close) : e.Mute := by
  rcases he with ⟨tx, rfl⟩ | ⟨place, answer, rfl⟩
  · exact ⟨rfl, fun _ _ => rfl, rfl⟩
  · exact ⟨rfl, fun _ _ => rfl, rfl⟩

section Mute

variable {newer : List Event} (hmute : ∀ e ∈ newer, e.Mute)

include hmute

theorem Exchange.answered_extend (x : Exchange) (verb : CommandLine.Verb) {code : UInt16}
    (hcode : code ∈ [(220 : UInt16), 250, 354]) :
    (x.extend newer).answered verb code = x.answered verb code := by
  have hnever : newer.any (Event.answers code) = false := by
    rw [List.any_eq_false]
    intro e he
    rw [(hmute e he).answers code hcode]
    exact Bool.false_ne_true
  rw [answered, answered, extend, List.any_append, hnever, Bool.or_false]
  rfl

theorem Exchange.granted_extend (x : Exchange) (verb : CommandLine.Verb) :
    (x.extend newer).granted verb = x.granted verb := by
  have hnever : newer.any Event.denies = false := by
    rw [List.any_eq_false]
    intro e he
    rw [(hmute e he).denies]
    exact Bool.false_ne_true
  rw [granted, granted, answered_extend hmute x verb (by simp), extend, List.any_append, hnever,
    Bool.or_false]

theorem Exchange.clears_extend (x : Exchange) : (x.extend newer).clears = x.clears := by
  rw [clears, clears, greets, greets, granted_extend hmute, granted_extend hmute,
    answered_extend hmute x .startTls (by simp), answered_extend hmute x .data (by simp)]
  rfl

/-- What is mute does not change what a history is worth. -/
theorem worth_append (journal : List Event) :
    worth (exchanges (newer.reverse ++ journal)) = worth (exchanges journal) := by
  have hcontinues : ∀ e ∈ newer.reverse, e.continues :=
    fun e he => (hmute e (List.mem_reverse.mp he)).continues
  rw [exchanges, exchangesWith_append hcontinues, List.append_nil, List.reverse_reverse,
    exchangesWith_eq]
  cases exchanges journal with
  | nil => rfl
  | cons x history =>
      rw [List.modifyHead_cons, worth_cons, worth_cons, Exchange.greets, Exchange.greets,
        Exchange.clears_extend hmute]
      simp only [Exchange.granted_extend hmute]

end Mute

/-- What a command earns that is answered with 250 and that nobody refuses; a recipient earns
something only as the first one. -/
def CommandLine.Verb.gain (first : Bool) : CommandLine.Verb → Nat
  | .helo | .ehlo | .mail | .data => 1
  | .rcpt => first.toNat
  | .rset | .noop | .quit | .startTls | .auth | .proxy | .xclient => 0

namespace Exchange.Reports

variable {x : Exchange} {line : CommandLine} {code : UInt16} {refused : Bool}

/-- What is worth something when it is answered with 250 and nobody refuses. -/
theorem worth_granted {verb : CommandLine.Verb} (hreports : x.Reports line 250 false)
    (hunclosed : x.Unclosed) (hverb : line.verb? = some verb) (history : List Exchange) :
    worth (x :: history) = worth history + verb.gain (!addressed history) := by
  rw [worth_cons, Exchange.greets, hunclosed.granted_eq, hunclosed.granted_eq, hunclosed.granted_eq,
    hunclosed.granted_eq, hunclosed.granted_eq, hreports.accepted_eq, hreports.accepted_eq,
    hreports.accepted_eq, hreports.accepted_eq, hreports.accepted_eq, hunclosed.clears_eq,
    hreports.empties_eq, hverb]
  cases addressed history <;> cases verb <;> rfl

theorem idle_of_negative (hreports : x.Reports line code refused) (hunclosed : x.Unclosed)
    (hcode : Turn.Negative code) (hverb : line.verb? ≠ some .rset) : x.Idle := by
  have hnever (verb : CommandLine.Verb) : x.granted verb = false := by
    have hne : (code == 250) = false := by
      rw [beq_eq_false_iff_ne]
      rintro rfl
      exact absurd hcode (by decide)
    rw [hunclosed.granted_eq, hreports.accepted_eq, hne, Bool.and_false, Bool.false_and]
  refine ⟨?_, hnever .mail, hnever .rcpt, hnever .data⟩
  rw [hunclosed.clears_eq]
  exact Exchange.empties_of_spares (hreports.spares_of_negative hcode hverb).2

theorem idle_of_refused (hreports : x.Reports line code true) (hunclosed : x.Unclosed)
    (hverb : line.verb? ∈ [some CommandLine.Verb.helo, some .ehlo, some .mail, some .rcpt]) :
    x.Idle := by
  have hnever (verb : CommandLine.Verb) : x.granted verb = false := by
    rw [hunclosed.granted_eq, hreports.accepted_eq, Bool.not_true, Bool.and_false]
  refine ⟨?_, hnever .mail, hnever .rcpt, hnever .data⟩
  rw [hunclosed.clears_eq, hreports.empties_eq]
  simp only [List.mem_cons, List.not_mem_nil, or_false] at hverb
  rcases hverb with hverb | hverb | hverb | hverb <;> simp [hverb]

theorem idle_of_verb {verb : CommandLine.Verb} (hreports : x.Reports line code refused)
    (hverb : line.verb? = some verb) (hother : verb = .noop ∨ verb = .proxy ∨ verb = .xclient) :
    x.Idle := by
  apply Exchange.idle_of_asks
  intro asked hasked
  rw [hreports.asks_eq, hverb]
  simp only [List.mem_cons, List.not_mem_nil, or_false] at hasked
  rcases hother with rfl | rfl | rfl <;>
    rcases hasked with rfl | rfl | rfl | rfl | rfl | rfl | rfl <;> rfl

end Exchange.Reports

/-- An exchange about credentials has nothing to do with envelopes. -/
theorem Underway.idle {line : CommandLine} {settled journal : List Event}
    (hunderway : Underway line settled journal)
    (hverb : line.verb? = some .auth) :
    ∃ x : Exchange, x.Idle ∧
      MailIntake.exchanges journal = x :: MailIntake.exchanges settled := by
  obtain ⟨x, hline, -, hexchanges⟩ := hunderway.exchanges
  refine ⟨x, Exchange.idle_of_asks ?_, hexchanges⟩
  intro asked hasked
  rw [Exchange.asks, hline, Option.bind_some, hverb]
  simp only [List.mem_cons, List.not_mem_nil, or_false] at hasked
  rcases hasked with rfl | rfl | rfl | rfl | rfl | rfl | rfl <;> rfl

/-- What a session rewards by: karma, and whether there are no recipients. -/
def Transaction.score (tx : Transaction) : Int × Bool :=
  (tx.karma, tx.envelope.recipients.isEmpty)

theorem Service.keeps_karma {service : Service W}
    (hkeeps : service.Keeps fun tx _ => tx.score) : service.Keeps fun tx _ => tx.karma where
  stages stage checker hchecker tx world :=
    congrArg Prod.fst (hkeeps.stages stage checker hchecker tx world)
  authenticator authenticator hauthenticator username password tx world :=
    congrArg Prod.fst (hkeeps.authenticator authenticator hauthenticator username password tx world)

namespace Turn

variable {service : Service W} {t after : Turn W}

/-- How the history tells whether there are recipients, phase by phase. -/
def Credited (t : Turn W) : Prop :=
  match t.phase with
  | .opening => t.journal = [] ∧ t.transaction.envelope.recipients.isEmpty
  | .command _ => t.transaction.envelope.recipients.isEmpty = !addressed (exchanges t.journal)
  | .response _ _ => ∃ line settled, Underway line settled t.journal ∧ line.verb? = some .auth ∧
      t.transaction.envelope.recipients.isEmpty = !addressed (exchanges settled)
  | .handshake => ∃ x history, exchanges t.journal = x :: history ∧ x.clears
  | .body _ => ∃ line settled message,
      t.journal = .replied ⟨354, message⟩ :: .command line :: settled ∧ line.verb? = some .data
  | .closed => True

theorem credited_close : Credited (t.close service) := by
  rw [Credited, close_phase]
  trivial

theorem credited_command {reader : LineReader} (hphase : t.phase = .command reader) :
    Credited t ↔
      t.transaction.envelope.recipients.isEmpty = !addressed (exchanges t.journal) := by
  rw [Credited, hphase]

/-- Behind a history and with some karma it has come to this turn, and what the history has gained
in worth is what karma has risen by. -/
structure Earned (history : List Exchange) (karma : Int) (after : Turn W) : Prop where
  credited : Credited after
  worth_eq : worth (exchanges after.journal) =
    worth history + (after.transaction.karma - karma).toNat

/-- A reward is one. -/
theorem toNat_reward {karma before : Int} (hkarma : karma = before) :
    (karma + Karma.commandExecuted - before).toNat = 1 := by
  rw [hkarma, Karma.commandExecuted]
  omega

theorem score_of_runStage {stage : Stage} {refusal : Option Refusal}
    (hkeeps : service.Keeps fun tx _ => tx.score)
    (hrun : t.runStage service stage = (after, refusal)) :
    after.transaction.score = t.transaction.score :=
  seen_of_runStage (hkeeps.stages stage) hrun

variable {history : List Exchange} {karma : Int} {code : UInt16} {message : String}
  {x : Exchange} {line : CommandLine} {settled : List Event}

/-- A reply that ends an exchange. -/
theorem Earned.answer (told : Turn W)
    (hexchanges : exchanges (.replied ⟨code, message⟩ :: told.journal) = x :: history)
    (hempty : told.transaction.envelope.recipients.isEmpty = !addressed (x :: history))
    (hworth : worth (x :: history) = worth history + (told.transaction.karma - karma).toNat) :
    Earned history karma (told.reply code message).conclude := by
  constructor
  · rw [credited_command (conclude_phase _), conclude_journal, reply_journal, hexchanges,
      conclude_transaction, reply_transaction]
    exact hempty
  · rw [conclude_journal, reply_journal, hexchanges, conclude_transaction, reply_transaction]
    exact hworth

/-- A reply that ends an exchange in which nothing was granted. -/
theorem Earned.idle (told : Turn W)
    (hexchanges : exchanges (.replied ⟨code, message⟩ :: told.journal) = x :: history)
    (hidle : x.Idle)
    (hempty : told.transaction.envelope.recipients.isEmpty = !addressed history)
    (hkarma : told.transaction.karma ≤ karma) :
    Earned history karma (told.reply code message).conclude := by
  apply Earned.answer told hexchanges
  · rw [hidle.addressed_eq]
    exact hempty
  · rw [hidle.worth_eq]
    omega

/-- A reply that ends an exchange behind which there are no recipients. -/
theorem Earned.clears (told : Turn W)
    (hexchanges : exchanges (.replied ⟨code, message⟩ :: told.journal) = x :: history)
    (hclears : x.clears) (hempty : told.transaction.envelope.recipients.isEmpty)
    (hworth : worth (x :: history) = worth history + (told.transaction.karma - karma).toNat) :
    Earned history karma (told.reply code message).conclude := by
  apply Earned.answer told hexchanges
  · rw [addressed_of_clears hclears]
    exact hempty
  · exact hworth

/-- A command that is refused behind a stage. -/
theorem Earned.refusal {stage : Stage} {mid : Turn W} {r : Refusal} (before told : Turn W)
    (hjournal : before.journal = .command line :: settled)
    (hrun : before.runStage service stage = (mid, some r)) (hstage : stage ≠ .close)
    (hverb : line.verb? ∈ [some CommandLine.Verb.helo, some .ehlo, some .mail, some .rcpt])
    (hsame : told.journal = mid.journal)
    (hempty : told.transaction.envelope.recipients.isEmpty = !addressed (exchanges settled))
    (hkarma : told.transaction.karma ≤ karma) :
    Earned (exchanges settled) karma (told.reply r.code r.message).conclude := by
  obtain ⟨x, hreports, hunclosed, hexchanges⟩ :=
    reports_of_runStage hjournal hrun hstage r.code r.message
  rw [← hsame] at hexchanges
  exact .idle told hexchanges (hreports.idle_of_refused hunclosed hverb) hempty hkarma

/-- The connection ends. -/
theorem Earned.close (hkeeps : service.Keeps fun tx _ => tx.score) (told : Turn W)
    {newer : List Event} (hmute : ∀ e ∈ newer, e.Mute)
    (hjournal : told.journal = newer.reverse ++ t.journal)
    (hworth : worth (exchanges t.journal) = worth history)
    (hkarma : told.transaction.karma ≤ karma) : Earned history karma (told.close service) := by
  refine ⟨credited_close, ?_⟩
  cases hrun : told.runStage service .close with
  | mk mid refusal =>
      obtain ⟨events, hmid, hevents⟩ := newer_of_runStage hrun
      have hscore := score_of_runStage hkeeps hrun
      have hsilent : ∀ e ∈ events.reverse, e.Mute :=
        fun e he => Event.mute_of_stage (hevents e (List.mem_reverse.mp he))
      have hclosed : (told.close service).journal = events.reverse.reverse ++ told.journal := by
        rw [close_eq service told hrun, List.reverse_reverse]
        exact hmid
      have hlast : (told.close service).transaction.karma = told.transaction.karma := by
        rw [close_eq service told hrun]
        exact congrArg Prod.fst hscore
      rw [hclosed, worth_append hsilent, hjournal, worth_append hmute, hworth, hlast]
      omega

theorem Exchanged.earned (hkeeps : service.Keeps fun tx _ => tx.score)
    (hunderway : Underway line settled t.journal) (hverb : line.verb? = some .auth)
    (hempty : t.transaction.envelope.recipients.isEmpty = !addressed (exchanges settled))
    (hdown : after.TurnedDown → after.transaction.karma ≤ t.transaction.karma)
    (hexchanged : Exchanged service t after) :
    Earned (exchanges settled) t.transaction.karma after := by
  have hended (told : Turn W) (code : UInt16) (message : String)
      (htold : Underway line settled told.journal)
      (hsame : told.transaction.envelope.recipients.isEmpty =
        t.transaction.envelope.recipients.isEmpty)
      (hkarma : told.transaction.karma ≤ t.transaction.karma) :
      Earned (exchanges settled) t.transaction.karma (told.reply code message).conclude := by
    obtain ⟨x, hidle, hexchanges⟩ :=
      (htold.cons (e := .replied ⟨code, message⟩) rfl rfl).idle hverb
    exact .idle told hexchanges hidle (hsame.trans hempty) hkarma
  have hasked (authenticator : Authenticator W) (username password : String)
      (hauthenticator : service.authenticator = some authenticator) :
      (t.questioned authenticator username password).transaction.score = t.transaction.score :=
    hkeeps.authenticator authenticator hauthenticator username password t.transaction t.world
  cases hexchanged with
  | refused cost code message hcode =>
      have hpaid := hdown ((turnedDown_reply (t.penalize cost) code message).mpr hcode)
      rw [refuse_eq, conclude_transaction, reply_transaction] at hpaid
      exact hended (t.penalize cost) code message hunderway rfl hpaid
  | challenged step =>
      have hmore : Underway line settled (t.challenge step).journal := by
        rw [challenge_journal]
        exact hunderway.cons rfl rfl
      obtain ⟨x, hidle, hexchanges⟩ := hmore.idle hverb
      constructor
      · refine ⟨line, settled, hmore, hverb, ?_⟩
        rw [challenge_transaction]
        exact hempty
      · rw [hexchanges, hidle.worth_eq, challenge_transaction]
        omega
  | rejected authenticator username password r hauthenticator hverdict =>
      have hscore := hasked authenticator username password hauthenticator
      refine hended ((t.questioned authenticator username password).penalize _) _ _
        (hunderway.cons rfl rfl) (congrArg Prod.snd hscore) ?_
      have hkarma := congrArg Prod.fst hscore
      exact (Int.sub_le_self _ (by decide)).trans_eq hkarma
  | accepted authenticator username password hauthenticator hverdict =>
      have hscore := hasked authenticator username password hauthenticator
      exact hended ((t.questioned authenticator username password).signIn username password) _ _
        (hunderway.cons rfl rfl) (congrArg Prod.snd hscore)
        (Int.le_of_eq (congrArg Prod.fst hscore))

/-- What a reply that asks for more is worth. -/
theorem worth_asked (settled : List Event) {code : UInt16} (message : String)
    (hcode : line.verb? = some .data ∧ code = 354 ∨ line.verb? = some .startTls ∧ code = 220) :
    ∃ x : Exchange, x.clears ∧
      exchanges (.replied ⟨code, message⟩ :: .command line :: settled) = x :: exchanges settled ∧
      worth (x :: exchanges settled) = worth (exchanges settled) := by
  have hnewer : ∀ e ∈ [Event.replied ⟨code, message⟩], e.continues := by simp [Event.continues]
  have hexchanges := exchanges_command hnewer line settled
  refine ⟨⟨some line, [.replied ⟨code, message⟩]⟩, ?_, hexchanges, ?_⟩
  · rcases hcode with ⟨hverb, rfl⟩ | ⟨hverb, rfl⟩ <;>
      simp [Exchange.clears, Exchange.answered, Exchange.asks, hverb, Event.answers]
  · rcases hcode with ⟨hverb, rfl⟩ | ⟨hverb, rfl⟩ <;>
      simp [worth_cons, Exchange.greets, Exchange.granted, Exchange.answered, Exchange.asks, hverb,
        Event.answers]

/-- Whoever was there before, a recipient who joins is there then. -/
theorem isEmpty_welcome (recipient : ForwardPath) (mid : Turn W) :
    ((if mid.transaction.envelope.recipients.isEmpty then mid.reward Karma.commandExecuted
      else mid).addRecipient recipient).transaction.envelope.recipients.isEmpty = false := by
  rw [envelope_welcome]
  simp

/-- The first recipient is the one that finds none in the envelope. -/
theorem toNat_welcome (recipient : ForwardPath) {mid : Turn W}
    (hkarma : mid.transaction.karma = karma) :
    (((if mid.transaction.envelope.recipients.isEmpty then mid.reward Karma.commandExecuted
      else mid).addRecipient recipient).transaction.karma - karma).toNat =
        mid.transaction.envelope.recipients.isEmpty.toNat := by
  cases mid.transaction.envelope.recipients.isEmpty with
  | true => exact toNat_reward hkarma
  | false =>
      have hsame : (mid.addRecipient recipient).transaction.karma = karma := hkarma
      simp only [Bool.false_eq_true, if_false, hsame, Int.sub_self]
      rfl

theorem Handled.earned (hkeeps : service.Keeps fun tx _ => tx.score)
    (hjournal : t.journal = .command line :: settled)
    (hempty : t.transaction.envelope.recipients.isEmpty = !addressed (exchanges settled))
    (hdown : after.TurnedDown → after.transaction.karma ≤ t.transaction.karma)
    (hhandled : Handled service line t after) :
    Earned (exchanges settled) t.transaction.karma after := by
  cases hhandled with
  | refused cost code message hcode hverb =>
      obtain ⟨x, hreports, hunclosed, hexchanges⟩ := reports_of_reply hjournal code message
      have hpaid := hdown ((turnedDown_reply (t.penalize cost) code message).mpr hcode)
      rw [refuse_eq, conclude_transaction, reply_transaction] at hpaid
      exact .idle (t.penalize cost) hexchanges
        (hreports.idle_of_negative hunclosed hcode (hverb .rset (by simp))) hempty hpaid
  | idle hverb =>
      obtain ⟨x, hreports, hexchanges⟩ := exchanges_of_reply hjournal 250 "Go ahead."
      exact .idle t hexchanges (hreports.idle_of_verb hverb (by simp)) hempty (Int.le_refl _)
  | reset hverb =>
      obtain ⟨x, hreports, hunclosed, hexchanges⟩ := reports_of_reply hjournal 250 "Go ahead."
      have hclears : x.clears := by
        rw [hunclosed.clears_eq, hreports.empties_eq, hverb]
        rfl
      apply Earned.clears t.resetEnvelope hexchanges hclears rfl
      rw [hreports.worth_granted hunclosed hverb, resetEnvelope_eq, mapTransaction_transaction,
        Transaction.karma_resetEnvelope, Int.sub_self]
      rfl
  | greeted protocol name mid hverb hname hrun =>
      have hscore := score_of_runStage hkeeps hrun
      obtain ⟨x, hreports, hunclosed, hexchanges⟩ := reports_of_runStage
        (t := t.introduce protocol name) hjournal hrun (by decide) 250
        (greetingText service protocol (mid.resetEnvelope.reward Karma.commandExecuted))
      have hclears : x.clears := by
        rw [hunclosed.clears_eq, hreports.empties_eq, hverb]
        cases protocol <;> rfl
      have hearned : ((mid.resetEnvelope.reward Karma.commandExecuted).transaction.karma -
          t.transaction.karma).toNat = 1 := toNat_reward (congrArg Prod.fst hscore)
      apply Earned.clears (mid.resetEnvelope.reward Karma.commandExecuted) hexchanges hclears rfl
      rw [hreports.worth_granted hunclosed hverb, hearned]
      cases protocol <;> rfl
  | greetingRefused protocol name mid r hverb hname hrun =>
      have hscore := score_of_runStage hkeeps hrun
      refine .refusal (t.introduce protocol name) (mid.restoreGreeting t.transaction.peer) hjournal
        hrun (by decide) ?_ rfl ((congrArg Prod.snd hscore).trans hempty)
        (Int.le_of_eq (congrArg Prod.fst hscore))
      rw [hverb]
      cases protocol <;> simp [Protocol.verb]
  | senderAccepted path sender mid hverb hobstacle hpath hparse hrun =>
      have hscore := score_of_runStage hkeeps hrun
      have hearned : ((mid.reward Karma.commandExecuted).transaction.karma -
          t.transaction.karma).toNat = 1 := toNat_reward (congrArg Prod.fst hscore)
      obtain ⟨x, hreports, hunclosed, hexchanges⟩ := reports_of_runStage
        (t := t.setSender (some sender)) hjournal hrun (by decide) 250 "Go ahead"
      have hclears : x.clears = false := by
        rw [hunclosed.clears_eq, hreports.empties_eq, hverb]
        rfl
      apply Earned.answer (mid.reward Karma.commandExecuted) hexchanges
      · rw [addressed_cons hclears, hunclosed.granted_eq, hreports.accepted_eq, hverb]
        exact (congrArg Prod.snd hscore).trans hempty
      · rw [hreports.worth_granted hunclosed hverb, hearned]
        rfl
  | senderRefused path sender mid r hverb hobstacle hpath hparse hrun =>
      have hscore := score_of_runStage hkeeps hrun
      refine .refusal (t.setSender (some sender)) (mid.setSender none) hjournal hrun (by decide) ?_
        rfl ((congrArg Prod.snd hscore).trans hempty) (Int.le_of_eq (congrArg Prod.fst hscore))
      simp [hverb]
  | recipientAccepted path recipient mid hverb hsender hroom hpath hparse hrun =>
      have hscore := score_of_runStage hkeeps hrun
      have hkarma : mid.transaction.karma = t.transaction.karma := congrArg Prod.fst hscore
      have hbefore : mid.transaction.envelope.recipients.isEmpty =
          !addressed (exchanges settled) := (congrArg Prod.snd hscore).trans hempty
      obtain ⟨x, hreports, hunclosed, hexchanges⟩ :=
        reports_of_runStage hjournal hrun (by simp) 250 "Go ahead"
      have hclears : x.clears = false := by
        rw [hunclosed.clears_eq, hreports.empties_eq, hverb]
        rfl
      rw [← journal_welcome recipient mid] at hexchanges
      apply Earned.answer _ hexchanges
      · rw [addressed_cons hclears, hunclosed.granted_eq, hreports.accepted_eq, hverb,
          isEmpty_welcome recipient mid]
        rfl
      · rw [hreports.worth_granted hunclosed hverb, toNat_welcome recipient hkarma, hbefore]
        rfl
  | recipientRefused path recipient mid r hverb hsender hpath hparse hrun =>
      have hscore := score_of_runStage hkeeps hrun
      refine .refusal t (mid.penalize Karma.recipientRejected) hjournal hrun (by simp) ?_ rfl
        ((congrArg Prod.snd hscore).trans hempty) ?_
      · simp [hverb]
      · have hkarma := congrArg Prod.fst hscore
        exact (Int.sub_le_self _ (by decide)).trans_eq hkarma
  | bodyAwaited hverb hsender hrecipients =>
      obtain ⟨x, hclears, hexchanges, hworth⟩ := worth_asked settled
        "Go ahead. End your data with <CR><LF>.<CR><LF>" (.inl ⟨hverb, rfl⟩)
      constructor
      · refine ⟨line, settled, "Go ahead. End your data with <CR><LF>.<CR><LF>", ?_, hverb⟩
        rw [inPhase_journal, reply_journal, hjournal]
      · rw [inPhase_journal, reply_journal, hjournal, hexchanges, hworth, inPhase_transaction,
          reply_transaction]
        omega
  | quit message hverb =>
      have hidle : Exchange.Idle ⟨some line, []⟩ := by
        apply Exchange.idle_of_asks
        intro asked hasked
        rw [Exchange.asks, Option.bind_some, hverb]
        simp only [List.mem_cons, List.not_mem_nil, or_false] at hasked
        rcases hasked with rfl | rfl | rfl | rfl | rfl | rfl | rfl <;> rfl
      have hmute : ∀ e ∈ [Event.replied ⟨221, message⟩], e.Mute := by
        simp only [List.mem_singleton, forall_eq]
        exact ⟨rfl, by simp [Event.answers], rfl⟩
      refine .close (t := t) hkeeps (t.reply 221 message).countCommand hmute ?_ ?_ ?_
      · rw [countCommand_journal, reply_journal]
        rfl
      · rw [hjournal]
        exact hidle.worth_eq (exchanges settled)
      · exact Int.le_of_eq (congrArg Transaction.karma (reply_transaction t 221 message))
  | handshakeAwaited hverb hplain hoffers =>
      obtain ⟨x, hclears, hexchanges, hworth⟩ := worth_asked settled "Go ahead"
        (.inr ⟨hverb, rfl⟩)
      constructor
      · refine ⟨x, exchanges settled, ?_, hclears⟩
        rw [inPhase_journal, reply_journal, hjournal, hexchanges]
      · rw [inPhase_journal, reply_journal, hjournal, hexchanges, hworth, inPhase_transaction,
          reply_transaction]
        omega
  | auth _ hverb hobstacle hexchanged =>
      have hunderway : Underway line settled t.journal := ⟨[], hjournal, List.forall_mem_nil _⟩
      exact hexchanged.earned hkeeps hunderway hverb hempty hdown
  | proxied header hverb henabled hfirst hparse =>
      obtain ⟨x, hreports, hexchanges⟩ := exchanges_of_reply hjournal 220
        (service.hostname ++ " " ++ service.settings.banner)
      exact .idle (t.relocate service header.source) hexchanges
        (hreports.idle_of_verb hverb (by simp)) hempty (Int.le_refl _)
  | xclient attributes hverb henabled hparse =>
      obtain ⟨x, hreports, hexchanges⟩ := exchanges_of_reply hjournal 220
        (service.hostname ++ " " ++ service.settings.banner)
      have hmoved : (t.moveTo service attributes).transaction.score = t.transaction.score := by
        rw [moveTo]
        split
        · rfl
        · rfl
      rw [← moveTo_journal service attributes t] at hexchanges
      exact .idle ((t.moveTo service attributes).mapPeer (withAttributes attributes)) hexchanges
        (hreports.idle_of_verb hverb (by simp)) ((congrArg Prod.snd hmoved).trans hempty)
        (Int.le_of_eq (congrArg Prod.fst hmoved))

/-- What was written down in between goes on with an exchange and answers nothing; it may deny what
was asked for. -/
def Spoken (before after : Turn W) (denied : Bool) : Prop :=
  ∃ newer, after.journal = newer ++ before.journal ∧ (∀ e ∈ newer, e.continues) ∧
    newer.any (Event.answers 250) = false ∧ newer.any Event.denies = denied

theorem Spoken.trans {before mid : Turn W} {first second : Bool}
    (hfirst : Spoken before mid first) (hsecond : Spoken mid after second) :
    Spoken before after (second || first) := by
  obtain ⟨newer, hmid, hnewer, hsilent, hdenies⟩ := hfirst
  obtain ⟨newest, hafter, hnewest, hnothing, hdenied⟩ := hsecond
  refine ⟨newest ++ newer, ?_, List.forall_mem_append.mpr ⟨hnewest, hnewer⟩, ?_, ?_⟩
  · rw [hafter, hmid, List.append_assoc]
  · rw [List.any_append, hnothing, hsilent, Bool.or_false]
  · rw [List.any_append, hdenied, hdenies]

/-- A stage denies what was asked for if a checker refuses, unless it is the last one. -/
theorem spoken_of_runStage {stage : Stage} {refusal : Option Refusal} (hother : stage ≠ .close)
    (hrun : t.runStage service stage = (after, refusal)) : Spoken t after refusal.isSome := by
  obtain ⟨checks, hchecks, hafter⟩ := journal_of_runStage hrun
  have hevents : ∀ e ∈ checks ++ [Event.stage stage t.transaction], e.OfStage stage := by
    refine List.forall_mem_append.mpr ⟨fun e he => .inr (hchecks.eq_checked he), ?_⟩
    exact List.forall_mem_cons.mpr ⟨.inl ⟨t.transaction, rfl⟩, List.forall_mem_nil _⟩
  refine ⟨checks ++ [.stage stage t.transaction], ?_, fun e he => (hevents e he).continues, ?_, ?_⟩
  · rw [hafter, List.append_assoc, List.singleton_append]
  · rw [List.any_append, hchecks.any_answers]
    rfl
  · rw [Event.any_denies_eq fun e he hclose => hother ((hevents e he).unique hclose),
      List.any_append, hchecks.any_refuses]
    exact Bool.or_false _

/-- The answer to a body ends the exchange of its DATA command. -/
theorem Earned.ended (told : Turn W) {asked : String} {denied : Bool}
    (hjournal : t.journal = .replied ⟨354, asked⟩ :: .command line :: settled)
    (hverb : line.verb? = some .data) (hspoken : Spoken t told denied)
    (hempty : told.transaction.envelope.recipients.isEmpty)
    (hearned : (told.transaction.karma - karma).toNat = (code == 250 && !denied).toNat) :
    Earned (exchanges settled) karma (told.reply code message).conclude := by
  obtain ⟨newer, htold, hcontinues, hsilent, hdenies⟩ := hspoken
  obtain ⟨x, hx⟩ : ∃ x : Exchange, x = ⟨some line,
    (.replied ⟨code, message⟩ :: (newer ++ [.replied ⟨354, asked⟩])).reverse⟩ := ⟨_, rfl⟩
  have hevents : ∀ e ∈ .replied ⟨code, message⟩ :: (newer ++ [.replied ⟨354, asked⟩]),
      e.continues := by
    refine List.forall_mem_cons.mpr ⟨rfl, List.forall_mem_append.mpr ⟨hcontinues, ?_⟩⟩
    exact List.forall_mem_cons.mpr ⟨rfl, List.forall_mem_nil _⟩
  have hexchanges : exchanges (.replied ⟨code, message⟩ :: told.journal) =
      x :: exchanges settled := by
    have hshape := exchanges_command hevents line settled
    rw [htold, hjournal, hx]
    simpa using hshape
  have hasks (verb : CommandLine.Verb) (hother : verb ≠ .data) : x.asks verb = false := by
    rw [hx, Exchange.asks, Option.bind_some, hverb]
    simpa using hother.symm
  have hclears : x.clears = true := by
    have hanswered : x.answered .data 354 = true := by
      simp [hx, Exchange.answered, Exchange.asks, hverb, Event.answers]
    rw [Exchange.clears, hanswered, Bool.or_true]
  have hgreets : x.greets = false := by
    rw [Exchange.greets, Exchange.granted_of_asks (hasks .helo (by decide)),
      Exchange.granted_of_asks (hasks .ehlo (by decide)), Bool.or_false]
  have hdata : x.granted .data = (code == 250 && !denied) := by
    simp [hx, Exchange.granted, Exchange.answered, Exchange.asks, hverb, Event.answers,
      Event.denies, hsilent, hdenies]
  apply Earned.clears told hexchanges hclears hempty
  rw [worth_cons, hgreets, Exchange.granted_of_asks (hasks .mail (by decide)), hclears, hdata,
    hearned]
  simp

theorem Ended.earned (hkeeps : service.Keeps fun tx _ => tx.score) {asked : String}
    {outcome : BodyOutcome}
    (hjournal : t.journal = .replied ⟨354, asked⟩ :: .command line :: settled)
    (hverb : line.verb? = some .data) (hended : Ended service t outcome after) :
    Earned (exchanges settled) t.transaction.karma after := by
  have hread (body : List UInt8) : Spoken t (t.hold body) false :=
    ⟨[], rfl, List.forall_mem_nil _, rfl, rfl⟩
  cases hended with
  | tooBig =>
      apply Earned.ended (t.penalize Karma.messageTooBig).resetEnvelope hjournal hverb
        (hread []) rfl
      exact Int.toNat_eq_zero.mpr (Int.sub_nonpos_of_le (Int.sub_le_self _ (by decide)))
  | bodyRefused body mid r hdata =>
      have hspoken := (hread body).trans (spoken_of_runStage (by decide) hdata)
      have hkarma : mid.transaction.karma = t.transaction.karma :=
        congrArg Prod.fst (score_of_runStage hkeeps hdata)
      apply Earned.ended mid.resetEnvelope hjournal hverb hspoken rfl
      rw [resetEnvelope_eq, mapTransaction_transaction, Transaction.karma_resetEnvelope, hkarma]
      simp
  | messageRefused body judged mid r hdata hhandler =>
      have hspoken := ((hread body).trans (spoken_of_runStage (by decide) hdata)).trans
        (spoken_of_runStage (by decide) hhandler)
      have hkarma : mid.transaction.karma = t.transaction.karma :=
        (congrArg Prod.fst (score_of_runStage hkeeps hhandler)).trans
          (congrArg Prod.fst (score_of_runStage hkeeps hdata))
      apply Earned.ended mid.resetEnvelope hjournal hverb hspoken rfl
      rw [resetEnvelope_eq, mapTransaction_transaction, Transaction.karma_resetEnvelope, hkarma]
      simp
  | messageAccepted body judged mid hdata hhandler =>
      have hspoken := ((hread body).trans (spoken_of_runStage (by decide) hdata)).trans
        (spoken_of_runStage (by decide) hhandler)
      have hkarma : mid.transaction.karma = t.transaction.karma :=
        (congrArg Prod.fst (score_of_runStage hkeeps hhandler)).trans
          (congrArg Prod.fst (score_of_runStage hkeeps hdata))
      exact .ended (mid.countMessage.reward Karma.commandExecuted).resetEnvelope hjournal hverb
        hspoken rfl (toNat_reward hkarma)

/-- Before the first command nothing is earned. -/
theorem Begun.earned (hkeeps : service.Keeps fun tx _ => tx.score) (hjournal : t.journal = [])
    (hempty : t.transaction.envelope.recipients.isEmpty) (hbegun : Begun service t after) :
    Earned [] t.transaction.karma after := by
  have hhistory : exchanges after.journal = [] := by
    have hnone : exchanges t.journal = [] := by
      rw [hjournal]
      rfl
    rcases hbegun.writes with ⟨hwrites, -⟩ | ⟨r, hwrites, -⟩
    · exact hwrites.exchanges_nil hnone
    · exact hwrites.exchanges_nil hnone
  have hkarma := hbegun.karma_eq (Service.keeps_karma hkeeps)
  constructor
  · cases hbegun with
    | refused mid r hrun => exact credited_close
    | greeted mid hrun =>
        have hscore := score_of_runStage hkeeps hrun
        rw [credited_command (awaitCommand_phase _), hhistory, awaitCommand_transaction, greet,
          reply_transaction]
        exact (congrArg Prod.snd hscore).trans hempty
  · rw [hhistory, hkarma, Int.sub_self]
    rfl

/-- What a signal earns is what it adds to the worth of the history. -/
theorem heed_earned (hkeeps : service.Keeps fun tx _ => tx.score) (hcredited : Credited t)
    (signal : Signal) :
    Earned (exchanges t.journal) t.transaction.karma (t.heed service signal) := by
  have hkarma := Service.keeps_karma hkeeps
  have hmove := heed_move service t signal
  have hnothing : ∀ e ∈ ([] : List Event), e.Mute := List.forall_mem_nil _
  generalize hafter : t.heed service signal = after at hmove
  have hsame (hstill : Credited after) (hjournal : after.journal = t.journal)
      (hpaid : after.transaction.karma = t.transaction.karma) :
      Earned (exchanges t.journal) t.transaction.karma after := by
    refine ⟨hstill, ?_⟩
    rw [hjournal, hpaid, Int.sub_self]
    rfl
  cases hmove with
  | unheard b hphase => exact hsame hcredited rfl rfl
  | unasked result hphase => exact hsame hcredited rfl rfl
  | finished signal hphase => exact hsame hcredited rfl rfl
  | passed b phase hpasses =>
      refine hsame ?_ rfl rfl
      generalize hbefore : t.phase = before at hpasses
      rw [Credited, hbefore] at hcredited
      cases hpasses with
      | command reader hb => exact hcredited
      | response step reader hb => exact hcredited
      | body decoder hb => exact hcredited
  | overlong reader hphase hline =>
      have hempty := (credited_command hphase).mp hcredited
      have hidle : Exchange.Idle ⟨none, [.replied ⟨500, "5.5.2 Line too long"⟩]⟩ :=
        ⟨rfl, rfl, rfl, rfl⟩
      constructor
      · rw [credited_command (awaitCommand_phase _)]
        exact hempty.trans (congrArg (!·) (hidle.addressed_eq _).symm)
      · refine (hidle.worth_eq (exchanges t.journal)).trans ?_
        have hpaid : t.transaction.karma - Karma.badParameter - t.transaction.karma ≤ 0 :=
          Int.sub_nonpos_of_le (Int.sub_le_self _ (by decide))
        exact (congrArg (worth (exchanges t.journal) + ·) (Int.toNat_eq_zero.mpr hpaid)).symm
  | handled reader text _ hphase hline hhandled =>
      have hweighed := feed_weighed hkarma hphase
      rw [hafter] at hweighed
      exact hhandled.earned (t := (t.countRead 1).note (.command (CommandLine.parse text))) hkeeps
        rfl ((credited_command hphase).mp hcredited) hweighed.le_of_turnedDown
  | exchanged step reader _ hphase hexchanged =>
      rw [Credited, hphase] at hcredited
      obtain ⟨line, settled, hunderway, hverb, hempty⟩ := hcredited
      obtain ⟨x, hidle, hexchanges⟩ := hunderway.idle hverb
      have htaken := takeResponse_weighed (t := t.countRead 1) hkarma step
        (reader.add [LineReader.byteFeed]).finish
      have htold : t.heed service (.byte LineReader.byteFeed) =
          (t.countRead 1).takeResponse service step (reader.add [LineReader.byteFeed]).finish := by
        simp only [heed, takeByte, hphase, if_true]
      rw [← htold, hafter] at htaken
      have hearned := hexchanged.earned (t := t.countRead 1) hkeeps hunderway hverb hempty
        htaken.le_of_turnedDown
      refine ⟨hearned.credited, ?_⟩
      rw [hexchanges, hidle.worth_eq]
      exact hearned.worth_eq
  | bodyEnded b outcome _ hread hended =>
      obtain ⟨decoder, hphase, -, -⟩ := hread
      rw [Credited, hphase] at hcredited
      obtain ⟨line, settled, message, hjournal, hverb⟩ := hcredited
      obtain ⟨x, -, hexchanges, hworth⟩ := worth_asked settled message
        (.inl ⟨hverb, rfl⟩)
      have hearned := hended.earned (t := t.countRead 1) hkeeps hjournal hverb
      refine ⟨hearned.credited, ?_⟩
      rw [hjournal, hexchanges, hworth]
      exact hearned.worth_eq
  | opened h _ hphase hbegun =>
      rw [Credited, hphase] at hcredited
      obtain ⟨hjournal, hempty⟩ := hcredited
      rw [hjournal]
      exact hbegun.earned (t := t.encrypt h) hkeeps hjournal hempty
  | openingFailed signal hphase hsignal =>
      exact .close hkeeps (t.penalize Karma.handshakeFailed) hnothing rfl rfl
        (Int.sub_le_self _ (by decide))
  | upgraded h hphase =>
      rw [Credited, hphase] at hcredited
      obtain ⟨x, history, hexchanges, hclears⟩ := hcredited
      refine hsame ?_ rfl rfl
      have hcommand : (t.upgraded h).phase = .command {} := rfl
      have hjournal : (t.upgraded h).journal = t.journal := rfl
      rw [credited_command hcommand, hjournal, hexchanges, addressed_of_clears hclears]
      rfl
  | upgradeFailed signal hphase hsignal =>
      have hmute : ∀ e ∈ [Event.replied ⟨550, "Handshake error"⟩], e.Mute := by
        simp only [List.mem_singleton, forall_eq]
        exact ⟨rfl, by simp [Event.answers], rfl⟩
      exact .close hkeeps (t.refuse Karma.handshakeFailed 550 "Handshake error").countCommand hmute
        rfl rfl (Int.sub_le_self _ (by decide))
  | ended hphase =>
      exact .close hkeeps t hnothing rfl rfl (Int.le_refl _)
  | timedOut hphase =>
      have hmute : ∀ e ∈ [Event.replied ⟨421, "Connection timed out."⟩], e.Mute := by
        simp only [List.mem_singleton, forall_eq]
        exact ⟨rfl, by simp [Event.answers], rfl⟩
      refine .close hkeeps (t.reply 421 "Connection timed out.") hmute ?_ rfl ?_
      · rw [reply_journal]
        rfl
      · exact Int.le_of_eq (congrArg Transaction.karma (reply_transaction t 421 _))
  | expired hphase =>
      exact .close hkeeps t hnothing rfl rfl (Int.le_refl _)

/-- The sum of all that signals raise karma by. -/
def rewards (service : Service W) (t : Turn W) : List Signal → Nat
  | [] => 0
  | signal :: more =>
      ((t.heed service signal).transaction.karma - t.transaction.karma).toNat +
        (t.heed service signal).rewards service more

/-- The price of all that a client is refused for. -/
def fines (service : Service W) (t : Turn W) : List Signal → Int
  | [] => 0
  | signal :: more =>
      (t.failure? service signal).elim 0 Fault.cost + (t.heed service signal).fines service more

/-- What signals earn is what they add to the worth of the history. -/
theorem heedAll_rewards (hkeeps : service.Keeps fun tx _ => tx.score) (signals : List Signal)
    (hcredited : Credited t) :
    worth (exchanges t.journal) + t.rewards service signals =
      worth (exchanges (t.heedAll service signals).journal) := by
  induction signals generalizing t with
  | nil => rfl
  | cons signal more ih =>
      have hearned := heed_earned hkeeps hcredited signal
      rw [rewards, ← Nat.add_assoc, ← hearned.worth_eq]
      exact ih hearned.credited

/-- Karma is what was earned less what was paid. -/
theorem heedAll_karma (hkeeps : service.Keeps fun tx _ => tx.karma) (signals : List Signal)
    (t : Turn W) : (t.heedAll service signals).transaction.karma =
      t.transaction.karma + t.rewards service signals - t.fines service signals := by
  induction signals generalizing t with
  | nil => simp [heedAll, rewards, fines]
  | cons signal more ih =>
      have hstep := ih (t.heed service signal)
      have hcost : 0 ≤ (t.failure? service signal).elim 0 Fault.cost := by
        cases t.failure? service signal with
        | none => exact Int.le_refl _
        | some fault => exact fault.cost_nonneg
      rw [rewards, fines]
      refine hstep.trans ?_
      rcases heed_karma hkeeps t signal with hpaid | ⟨hnone, hearned⟩
      · omega
      · rw [hnone, hearned, Karma.commandExecuted]
        simp only [Option.elim]
        omega

variable (service) (id : TransactionId) (serverHostname : String)
  (localAddr remoteAddr : Address.Endpoint) (world : W)

theorem start_credited (hkeeps : service.Keeps fun tx _ => tx.score) :
    Credited (start service (.start id serverHostname localAddr remoteAddr) world) := by
  rw [start]
  split
  · exact ⟨rfl, rfl⟩
  · exact ((begin_begun service _).earned hkeeps rfl (by rfl)).credited

theorem start_karma (hkeeps : service.Keeps fun tx _ => tx.karma) :
    (start service (.start id serverHostname localAddr remoteAddr) world).transaction.karma =
      0 := by
  rw [start]
  split
  · rfl
  · exact (begin_begun service _).karma_eq hkeeps

/-- What a command does to karma, from the turn with which it begins to the signal behind
`earlier`. -/
structure Rated (service : Service W) (t : Turn W) (earlier : List Signal) (signal : Signal) :
    Prop where
  paid : ∀ fault, (t.heedAll service earlier).failure? service signal = some fault →
    (t.heedAll service (earlier ++ [signal])).transaction.karma = t.transaction.karma - fault.cost
  refused : ∀ fault, (t.heedAll service earlier).failure? service signal = some fault →
    fault.chosen = false → (t.heedAll service (earlier ++ [signal])).TurnedDown
  turnedDown : (t.heedAll service (earlier ++ [signal])).TurnedDown →
    ((t.heedAll service earlier).failure? service signal).isSome ∧
      (t.heedAll service (earlier ++ [signal])).transaction.karma ≤ t.transaction.karma
  satisfied : (t.heedAll service (earlier ++ [signal])).Satisfied →
    (t.heedAll service earlier).failure? service signal ≠ some .recipient →
    (t.heedAll service earlier).failure? service signal ≠ some .credentials →
      t.transaction.karma ≤ (t.heedAll service (earlier ++ [signal])).transaction.karma

/-- The rewards of a run are what its history is worth, and karma is what was earned less what was
paid.  A command with a fault is refused and pays its price, and nothing else; one that is turned
down has a fault and earns nothing, and one that is satisfied pays nothing, unless a checker of
recipients or the authenticator refused it with a code of success. -/
theorem run_karma_ledger (hkeeps : service.Keeps fun tx _ => tx.score) (inputs : List Input) :
    let t0 := start service (.start id serverHostname localAddr remoteAddr) world
    let t := t0.run service inputs
    t0.rewards service (inputs.flatMap Input.signals) = worth (exchanges t.journal) ∧
      t.transaction.karma = worth (exchanges t.journal) -
        t0.fines service (inputs.flatMap Input.signals) ∧
      ∀ reader earlier signal, t.phase = .command reader → CommandAt service t earlier signal →
        Rated service t earlier signal := by
  intro t0 t
  have hkarma := Service.keeps_karma hkeeps
  have hrun : t = t0.heedAll service (inputs.flatMap Input.signals) := run_eq_heedAll service t0 _
  have hworth : t0.rewards service (inputs.flatMap Input.signals) =
      worth (exchanges t.journal) := by
    have hcredited := start_credited service id serverHostname localAddr remoteAddr world hkeeps
    have hnothing : exchanges t0.journal = [] := start_exchanges service _ world
    have hrewards := heedAll_rewards hkeeps (inputs.flatMap Input.signals) hcredited
    rw [hrun, ← hrewards, hnothing]
    exact (Nat.zero_add _).symm
  refine ⟨hworth, ?_, ?_⟩
  · have hzero : t0.transaction.karma = 0 :=
      start_karma service id serverHostname localAddr remoteAddr world hkarma
    have htotal := heedAll_karma hkarma (inputs.flatMap Input.signals) t0
    rw [← hrun, hzero, hworth] at htotal
    omega
  · intro reader earlier signal hphase hcommand
    have hweighed := hcommand.weighed hkarma hphase
    have hconcat : (t.heedAll service earlier).heed service signal =
        t.heedAll service (earlier ++ [signal]) := (heedAll_concat t earlier signal).symm
    rw [hconcat] at hweighed
    constructor
    · intro fault hfault
      rw [hfault] at hweighed
      exact hweighed.karma_eq
    · intro fault hfault hfixed
      rw [hfault] at hweighed
      exact hweighed.turnedDown hfixed
    · intro hdown
      exact ⟨hweighed.isSome_of_turnedDown hdown, hweighed.le_of_turnedDown hdown⟩
    · exact hweighed.le_of_satisfied

end Turn

/-- What a history would be worth if an answer of 250 were enough. -/
def answeredWorth (history : List Exchange) : Nat :=
  history.countP Exchange.greets + history.countP (Exchange.answered .mail 250) +
    (envelopes history).countP (List.any · (Exchange.answered .rcpt 250)) +
    history.countP (Exchange.granted .data)

namespace Sample

/-- A checker that turns every sender away with the code of success. -/
def waveOn : Checker Office := fun tx office =>
  { transaction := tx
    world := office
    refusal := some (.reject ⟨250, "Go ahead"⟩) }

def breezy : Service Office :=
  { hostname := "mx", pipelines := { sender := [waveOn] } }

/-- A checker that drops the recipients who were named before. -/
def forget : RecipientChecker Office := fun _ tx office =>
  { transaction := { tx with envelope := { tx.envelope with recipients := [] } }
    world := office
    refusal := none }

def forgetful : Service Office :=
  { hostname := "mx", pipelines := { recipient := [forget] } }

def sender : List UInt8 :=
  Text.Utf8.encode "HELO c\r\nMAIL FROM:<>\r\n"

def recipientLine : List UInt8 :=
  Text.Utf8.encode "RCPT TO:<b@c>\r"

theorem breezy_keeps {A : Type u} (view : Transaction → A) :
    breezy.Keeps fun tx _ => view tx where
  stages stage checker hchecker := by
    cases stage with
    | sender =>
        rw [List.mem_singleton.mp hchecker]
        exact fun tx office => rfl
    | connection | helo | recipient candidate | data | handler | close => cases hchecker
  authenticator _ hauthenticator := nomatch hauthenticator

theorem forgetful_keeps : forgetful.Keeps fun tx _ => tx.karma where
  stages stage checker hchecker := by
    cases stage with
    | recipient candidate =>
        rw [List.mem_singleton.mp hchecker]
        exact fun tx office => rfl
    | connection | helo | sender | data | handler | close => cases hchecker
  authenticator _ hauthenticator := nomatch hauthenticator

end Sample

namespace Turn

/-- Answers of 250 are not what is rewarded, even where nobody touches karma: a checker may turn a
sender away with this code, one who drops recipients makes another one the first, and a client may
pay although its recipient was answered with 250. -/
theorem answered_unrewarded :
    let start (service : Service Office) :=
      start service (.start ⟨1⟩ "mx" Sample.place Sample.place) Sample.office
    let signals := [Input.bytes Sample.twoRecipients].flatMap Input.signals
    let t := (start Sample.polite).run Sample.polite [.bytes Sample.sender]
    let after := t.run Sample.polite [.bytes (Sample.recipientLine ++ [LineReader.byteFeed])]
    ((Sample.breezy.Keeps fun tx _ => tx.karma) ∧
        (start Sample.breezy).rewards Sample.breezy signals ≠
          answeredWorth
            (exchanges ((start Sample.breezy).heedAll Sample.breezy signals).journal)) ∧
      ((Sample.forgetful.Keeps fun tx _ => tx.karma) ∧
        (start Sample.forgetful).rewards Sample.forgetful signals ≠
          answeredWorth
            (exchanges ((start Sample.forgetful).heedAll Sample.forgetful signals).journal)) ∧
      (Sample.polite.Keeps fun tx _ => tx.karma) ∧
        after.Satisfied ∧ after.transaction.karma < t.transaction.karma := by
  refine ⟨⟨Sample.breezy_keeps _, ?_⟩, ⟨Sample.forgetful_keeps, ?_⟩, Sample.polite_keeps _, ?_, ?_⟩
  · decide +kernel
  · decide +kernel
  · decide +kernel
  · decide +kernel

/-- A client names a recipient who is turned away, and pays for it. -/
theorem run_karma_ledger_recipient :
    let t := (start Sample.polite (.start ⟨1⟩ "mx" Sample.place Sample.place) Sample.office).run
      Sample.polite [.bytes Sample.sender]
    t.transaction.karma = 2 ∧
      (t.heedAll Sample.polite (Sample.recipientLine.map .byte ++
        [.byte LineReader.byteFeed])).transaction.karma = 2 - Karma.recipientRejected := by
  intro t
  have hsettles := run_karma_ledger Sample.polite ⟨1⟩ "mx" Sample.place Sample.place Sample.office
    (Sample.polite_keeps Transaction.score) [.bytes Sample.sender]
  have hkarma : t.transaction.karma = 2 := by decide +kernel
  have hphase : t.phase = .command {} := by decide +kernel
  have hfailure : (t.heedAll Sample.polite (Sample.recipientLine.map .byte)).failure? Sample.polite
      (.byte LineReader.byteFeed) = some .recipient := by
    decide +kernel
  have hrated := hsettles.2.2 {} (Sample.recipientLine.map .byte) (.byte LineReader.byteFeed) hphase
    (.line Sample.recipientLine (by decide +kernel))
  refine ⟨hkarma, (hrated.paid .recipient hfailure).trans ?_⟩
  rw [hkarma]
  rfl

end Turn
end MailIntake
