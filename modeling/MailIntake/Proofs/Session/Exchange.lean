import MailIntake.Proofs.Session.Journal
/-!
The journal as a history of commands and answers.  An exchange is a command with everything that was
written down while it was carried out.  What a message is made of can be read from the exchanges
since the last sender that was answered with success (`Composed`).
-/
namespace MailIntake

universe u

variable {W : Type u}

/-- A command, or a line that was too long, and what was written down about it, in order. -/
structure Exchange where
  line : Option CommandLine
  events : List Event

/-- The exchanges of a journal, the latest first, `later` being what the first one goes on with.
What stands before the first command belongs to no exchange. -/
def exchangesWith (later : List Event) : List Event → List Exchange
  | [] => []
  | .command line :: older => ⟨some line, later⟩ :: exchangesWith [] older
  | .overlong :: older => ⟨none, later⟩ :: exchangesWith [] older
  | e :: older => exchangesWith (e :: later) older

/-- The exchanges of a journal, the latest first. -/
def exchanges (journal : List Event) : List Exchange :=
  exchangesWith [] journal

namespace Event

def continues : Event → Bool
  | .command _ | .overlong => false
  | .stage _ _ | .checked _ _ _ | .authenticated _ _ _ | .replied _ => true

def answers (code : UInt16) : Event → Bool
  | .replied reply => reply.code == code
  | _ => false

def refuses : Event → Bool
  | .checked _ _ (some _) => true
  | _ => false

end Event

theorem exchangesWith_append {newer : List Event} (hnewer : ∀ e ∈ newer, e.continues)
    (later older : List Event) :
    exchangesWith later (newer ++ older) = exchangesWith (newer.reverse ++ later) older := by
  induction newer generalizing later with
  | nil => rfl
  | cons e newer ih =>
      have hrest := ih (fun e he => hnewer e (List.mem_cons_of_mem _ he)) (e :: later)
      have hfirst := hnewer e List.mem_cons_self
      rw [List.cons_append, List.reverse_cons, List.append_assoc]
      cases e with
      | command line => cases hfirst
      | overlong => cases hfirst
      | stage stage tx => exact hrest
      | checked stage place refusal => exact hrest
      | authenticated username password refusal => exact hrest
      | replied reply => exact hrest

/-- A command opens an exchange, and what is written down until the next command belongs to it. -/
theorem exchanges_command {newer : List Event} (hnewer : ∀ e ∈ newer, e.continues)
    (line : CommandLine) (older : List Event) :
    exchanges (newer ++ .command line :: older) =
      ⟨some line, newer.reverse⟩ :: exchanges older := by
  rw [exchanges, exchangesWith_append hnewer, List.append_nil]
  rfl

theorem Event.OfStage.continues {stage : Stage} {e : Event} (hof : e.OfStage stage) :
    e.continues := by
  rcases hof with ⟨tx, rfl⟩ | ⟨place, answer, rfl⟩
  · rfl
  · rfl

/-- A journal without a command holds no exchange. -/
theorem exchanges_of_continues {journal : List Event} (hjournal : ∀ e ∈ journal, e.continues) :
    exchanges journal = [] := by
  have hshape := exchangesWith_append hjournal [] []
  rw [List.append_nil] at hshape
  exact hshape

namespace Exchange

/-- Whether the client asked for something. -/
def asks (verb : CommandLine.Verb) (x : Exchange) : Bool :=
  x.line.bind CommandLine.verb? == some verb

def answered (verb : CommandLine.Verb) (code : UInt16) (x : Exchange) : Bool :=
  x.asks verb && x.events.any (Event.answers code)

/-- Whether the client asked for something and had it: the answer was 250, and no checker
refused. -/
def accepted (verb : CommandLine.Verb) (x : Exchange) : Bool :=
  x.answered verb 250 && !x.events.any Event.refuses

def sender? (x : Exchange) : Option ReversePath :=
  x.line.bind fun line => (Turn.pathBehind "FROM" line).bind ReversePath.parse?

def recipient? (x : Exchange) : Option ForwardPath :=
  x.line.bind fun line => (Turn.pathBehind "TO" line).bind ForwardPath.parse?

/-- An exchange after which a message that was begun goes on: no new greeting, no reset, no
handshake and no body. -/
structure Spares (x : Exchange) : Prop where
  greeting : ∀ protocol : Protocol, x.accepted protocol.verb = false
  reset : x.asks .rset = false
  startTls : x.answered .startTls 220 = false
  data : x.answered .data 354 = false

end Exchange

/-- The latest sender that was answered with success. -/
def lastMail? (history : List Exchange) : Option Exchange :=
  history.find? (·.answered .mail 250)

/-- What came after the latest sender that was answered with success, the latest first. -/
def sinceMail (history : List Exchange) : List Exchange :=
  history.takeWhile fun x => !x.answered .mail 250

section Since

variable {history : List Exchange} {x : Exchange}

theorem lastMail?_cons_of_mail (hmail : x.answered .mail 250) :
    lastMail? (x :: history) = some x := by
  rw [lastMail?, List.find?_cons_of_pos hmail]

theorem lastMail?_cons_of_other (hmail : x.answered .mail 250 = false) :
    lastMail? (x :: history) = lastMail? history := by
  rw [lastMail?, List.find?_cons_of_neg (by simp [hmail]), ← lastMail?]

theorem sinceMail_cons_of_mail (hmail : x.answered .mail 250) : sinceMail (x :: history) = [] := by
  rw [sinceMail, List.takeWhile_cons_of_neg (by simpa using hmail)]

theorem sinceMail_cons_of_other (hmail : x.answered .mail 250 = false) :
    sinceMail (x :: history) = x :: sinceMail history := by
  rw [sinceMail, List.takeWhile_cons_of_pos (by simp [hmail]), ← sinceMail]

end Since

/-- An envelope is made of a history in which the recipients are those of the exchanges that
count. -/
structure Composed (counts : Exchange → Bool) (history : List Exchange) (envelope : Envelope) :
    Prop where
  sender_isSome : envelope.sender.isSome
  sender : (lastMail? history).bind Exchange.sender? = envelope.sender
  unrefused : ∀ x ∈ lastMail? history, x.accepted .mail
  recipients : ((sinceMail history).reverse.filter counts).map Exchange.recipient? =
    envelope.recipients.map some
  spared : ∀ x ∈ sinceMail history, x.Spares

namespace Composed

variable {counts : Exchange → Bool} {history : List Exchange} {x : Exchange}
  {before after : Envelope}

/-- A sender begins a message. -/
theorem mail (haccepted : x.accepted .mail) (hsender : x.sender? = after.sender)
    (hsome : after.sender.isSome) (hrecipients : after.recipients = []) :
    Composed counts (x :: history) after := by
  have hmail : x.answered .mail 250 := by
    rw [Exchange.accepted, Bool.and_eq_true] at haccepted
    exact haccepted.1
  have hlast : lastMail? (x :: history) = some x := lastMail?_cons_of_mail hmail
  have hsince : sinceMail (x :: history) = [] := sinceMail_cons_of_mail hmail
  constructor
  · exact hsome
  · rw [hlast]
    exact hsender
  · intro y hy
    cases hlast.symm.trans hy
    exact haccepted
  · rw [hsince, hrecipients]
    rfl
  · rw [hsince]
    exact List.forall_mem_nil _

/-- What neither begins a message nor ends it adds a recipient if it counts. -/
theorem cons (hcomposed : Composed counts history before) (hmail : x.answered .mail 250 = false)
    (hspares : x.Spares) (hsender : after.sender = before.sender)
    (hrecipients : after.recipients.map some =
      before.recipients.map some ++ if counts x then [x.recipient?] else []) :
    Composed counts (x :: history) after := by
  have hlast : lastMail? (x :: history) = lastMail? history := lastMail?_cons_of_other hmail
  have hsince : sinceMail (x :: history) = x :: sinceMail history := sinceMail_cons_of_other hmail
  constructor
  · rw [hsender]
    exact hcomposed.sender_isSome
  · rw [hlast, hsender]
    exact hcomposed.sender
  · rw [hlast]
    exact hcomposed.unrefused
  · rw [hsince, List.reverse_cons, List.filter_append, List.map_append, hrecipients,
      ← hcomposed.recipients]
    congr 1
    by_cases hcounts : counts x
    · simp [hcounts]
    · simp [hcounts]
  · rw [hsince]
    exact List.forall_mem_cons.mpr ⟨hspares, hcomposed.spared⟩

end Composed

/-- What an exchange says about a command that was answered once. -/
structure Exchange.Reports (x : Exchange) (line : CommandLine) (code : UInt16) (refused : Bool) :
    Prop where
  line_eq : x.line = some line
  answers_eq : ∀ other, x.events.any (Event.answers other) = (code == other)
  refuses_eq : x.events.any Event.refuses = refused

namespace Exchange.Reports

variable {x : Exchange} {line : CommandLine} {code : UInt16} {refused : Bool}

theorem asks_eq (hreports : x.Reports line code refused) (verb : CommandLine.Verb) :
    x.asks verb = (line.verb? == some verb) := by
  rw [asks, hreports.line_eq, Option.bind_some]

theorem answered_eq (hreports : x.Reports line code refused) (verb : CommandLine.Verb)
    (other : UInt16) : x.answered verb other = (line.verb? == some verb && code == other) := by
  rw [answered, hreports.asks_eq, hreports.answers_eq]

theorem accepted_eq (hreports : x.Reports line code refused) (verb : CommandLine.Verb) :
    x.accepted verb = (line.verb? == some verb && code == 250 && !refused) := by
  rw [accepted, hreports.answered_eq, hreports.refuses_eq]

theorem sender?_eq (hreports : x.Reports line code refused) :
    x.sender? = (Turn.pathBehind "FROM" line).bind ReversePath.parse? := by
  rw [sender?, hreports.line_eq, Option.bind_some]

theorem recipient?_eq (hreports : x.Reports line code refused) :
    x.recipient? = (Turn.pathBehind "TO" line).bind ForwardPath.parse? := by
  rw [recipient?, hreports.line_eq, Option.bind_some]

/-- A command that is turned down begins no message and spares the one at hand. -/
theorem spares_of_negative (hreports : x.Reports line code refused) (hcode : Turn.Negative code)
    (hverb : line.verb? ≠ some .rset) : x.answered .mail 250 = false ∧ x.Spares := by
  have hne : ∀ other : UInt16, other.toNat < 400 → (code == other) = false := by
    intro other hother
    rw [beq_eq_false_iff_ne]
    rintro rfl
    exact absurd hcode.1 (Nat.not_le.mpr hother)
  refine ⟨?_, ?_, ?_, ?_, ?_⟩
  · rw [hreports.answered_eq, hne 250 (by decide), Bool.and_false]
  · intro protocol
    rw [hreports.accepted_eq, hne 250 (by decide), Bool.and_false, Bool.false_and]
  · rw [hreports.asks_eq]
    simpa using hverb
  · rw [hreports.answered_eq, hne 220 (by decide), Bool.and_false]
  · rw [hreports.answered_eq, hne 354 (by decide), Bool.and_false]

/-- A refused greeting begins no message and spares the one at hand. -/
theorem spares_of_greeting {protocol : Protocol} (hreports : x.Reports line code true)
    (hverb : line.verb? = some protocol.verb) : x.answered .mail 250 = false ∧ x.Spares := by
  refine ⟨?_, ?_, ?_, ?_, ?_⟩
  · rw [hreports.answered_eq, hverb]
    cases protocol <;> rfl
  · intro other
    rw [hreports.accepted_eq, Bool.not_true, Bool.and_false]
  · rw [hreports.asks_eq, hverb]
    cases protocol <;> rfl
  · rw [hreports.answered_eq, hverb]
    cases protocol <;> rfl
  · rw [hreports.answered_eq, hverb]
    cases protocol <;> rfl

/-- Some commands begin no message and spare the one at hand whatever becomes of them. -/
theorem spares_of_verb {verb : CommandLine.Verb} (hreports : x.Reports line code refused)
    (hverb : line.verb? = some verb)
    (hother : verb = .noop ∨ verb = .rcpt ∨ verb = .proxy ∨ verb = .xclient) :
    x.answered .mail 250 = false ∧ x.Spares := by
  have hasks : ∀ asked ∈ [CommandLine.Verb.mail, .helo, .ehlo, .rset, .startTls, .data],
      (line.verb? == some asked) = false := by
    rw [hverb]
    rcases hother with rfl | rfl | rfl | rfl <;> decide
  refine ⟨?_, ?_, ?_, ?_, ?_⟩
  · rw [hreports.answered_eq, hasks _ (by simp), Bool.false_and]
  · intro protocol
    rw [hreports.accepted_eq, hasks _ (by cases protocol <;> simp [Protocol.verb]),
      Bool.false_and, Bool.false_and]
  · rw [hreports.asks_eq, hasks _ (by simp)]
  · rw [hreports.answered_eq, hasks _ (by simp), Bool.false_and]
  · rw [hreports.answered_eq, hasks _ (by simp), Bool.false_and]

end Exchange.Reports

/-- The answers of checkers go on with an exchange. -/
theorem Verdicts.continues {stage : Stage} {refusal : Option Refusal} {checks : List Event}
    (hverdicts : Verdicts stage refusal checks) {e : Event} (he : e ∈ checks) : e.continues := by
  obtain ⟨place, answer, rfl⟩ := hverdicts.eq_checked he
  rfl

theorem Verdicts.any_answers {stage : Stage} {refusal : Option Refusal} {checks : List Event}
    (hverdicts : Verdicts stage refusal checks) (code : UInt16) :
    checks.any (Event.answers code) = false := by
  rw [List.any_eq_false]
  intro e he
  obtain ⟨place, answer, rfl⟩ := hverdicts.eq_checked he
  simp [Event.answers]

theorem Verdicts.any_refuses {stage : Stage} {refusal : Option Refusal} {checks : List Event}
    (hverdicts : Verdicts stage refusal checks) :
    checks.any Event.refuses = refusal.isSome := by
  induction hverdicts with
  | nil => rfl
  | pass _ ih => simpa [Event.refuses] using ih
  | refuse _ _ _ => simp [Event.refuses]

namespace Turn

variable {service : Service W} {t after : Turn W} {line : CommandLine} {older : List Event}

/-- A command that is answered at once. -/
theorem exchanges_of_reply (hjournal : t.journal = .command line :: older) (code : UInt16)
    (message : String) : ∃ x : Exchange, x.Reports line code false ∧
      exchanges (.replied ⟨code, message⟩ :: t.journal) = x :: exchanges older := by
  have hnewer : ∀ e ∈ [Event.replied ⟨code, message⟩], e.continues := by
    simp [Event.continues]
  have hexchanges := exchanges_command hnewer line older
  refine ⟨_, ⟨rfl, ?_, ?_⟩, hjournal ▸ hexchanges⟩
  · simp [Event.answers]
  · simp [Event.refuses]

/-- A command that is answered behind a stage. -/
theorem exchanges_of_runStage {stage : Stage} {refusal : Option Refusal}
    (hjournal : t.journal = .command line :: older)
    (hrun : t.runStage service stage = (after, refusal)) (code : UInt16) (message : String) :
    ∃ x : Exchange, x.Reports line code refusal.isSome ∧
      exchanges (.replied ⟨code, message⟩ :: after.journal) = x :: exchanges older := by
  obtain ⟨checks, hchecks, hafter⟩ := journal_of_runStage hrun
  have hnewer : ∀ e ∈ .replied ⟨code, message⟩ :: (checks ++ [.stage stage t.transaction]),
      e.continues := by
    intro e he
    rcases List.mem_cons.mp he with rfl | he
    · rfl
    · rcases List.mem_append.mp he with hcheck | hstage
      · exact hchecks.continues hcheck
      · rw [List.mem_singleton.mp hstage]
        rfl
  have hexchanges := exchanges_command hnewer line older
  refine ⟨⟨some line, (.replied ⟨code, message⟩ :: (checks ++
    [.stage stage t.transaction])).reverse⟩, ⟨rfl, ?_, ?_⟩, ?_⟩
  · intro other
    simp [hchecks.any_answers, Event.answers]
  · simp [hchecks.any_refuses, Event.refuses]
  · rw [hafter, hjournal]
    simpa using hexchanges

end Turn
end MailIntake
