import MailIntake.Proofs.Session.Credentials
import MailIntake.Proofs.Session.Lines
/-!
A client may send its lines without waiting, and counts replies to know what became of each.  A line
that is taken up is answered with one final reply before the next one is looked at, behind at most
two that ask for more; so the final reply at a place answers the line at that place
(`run_lines_answered`).
-/
namespace MailIntake

universe u

variable {W : Type u}

namespace Exchange

variable {x y : Exchange}

/-- How often a command may ask the client for more: DATA asks for a body, and AUTH for a user name
and a password. -/
def promptLimit (x : Exchange) : Nat :=
  if x.asks .data then 1 else if x.asks .auth then 2 else 0

/-- Replies that ask for more, no more of them than the command may send. -/
structure Prompts (x : Exchange) (prompts : List Reply) : Prop where
  more : ∀ r ∈ prompts, r.Intermediate
  few : prompts.length ≤ x.promptLimit

/-- A line that has its answer: perhaps replies that ask for more, and then one final reply. -/
def Answered (x : Exchange) : Prop :=
  ∃ prompts final, x.replies = prompts ++ [final] ∧ x.Prompts prompts ∧ ¬ final.Intermediate

/-- A command that has asked for more and has had no answer. -/
structure Pending (x : Exchange) : Prop where
  asked : x.replies ≠ []
  prompts : x.Prompts x.replies

def finals (x : Exchange) : List Reply :=
  x.replies.filter fun r => ¬ r.Intermediate

def answer? (x : Exchange) : Option Reply :=
  x.replies.find? fun r => ¬ r.Intermediate

theorem Prompts.of_line {prompts : List Reply} (hprompts : x.Prompts prompts)
    (hline : y.line = x.line) : y.Prompts prompts := by
  refine ⟨hprompts.more, ?_⟩
  rw [promptLimit, asks_of_line hline, asks_of_line hline]
  exact hprompts.few

theorem Answered.of_line (hanswered : x.Answered) (hline : y.line = x.line)
    (hreplies : y.replies = x.replies) : y.Answered := by
  obtain ⟨prompts, final, hshape, hprompts, hfinal⟩ := hanswered
  exact ⟨prompts, final, hreplies.trans hshape, hprompts.of_line hline, hfinal⟩

theorem Pending.of_line (hpending : x.Pending) (hline : y.line = x.line)
    (hreplies : y.replies = x.replies) : y.Pending := by
  refine ⟨hreplies ▸ hpending.asked, ?_⟩
  rw [hreplies]
  exact hpending.prompts.of_line hline

/-- The final reply comes. -/
theorem Pending.answered (hpending : x.Pending) (hline : y.line = x.line) {r : Reply}
    (hreplies : y.replies = x.replies ++ [r]) (hfinal : ¬ r.Intermediate) : y.Answered :=
  ⟨x.replies, r, hreplies, hpending.prompts.of_line hline, hfinal⟩

/-- A line that is answered at once. -/
theorem answered_of_final {r : Reply} (hreplies : x.replies = [r]) (hfinal : ¬ r.Intermediate) :
    x.Answered :=
  ⟨[], r, hreplies, ⟨List.forall_mem_nil _, Nat.zero_le _⟩, hfinal⟩

/-- A command that asks for more at once. -/
theorem pending_of_prompt {r : Reply} (hreplies : x.replies = [r]) (hmore : r.Intermediate)
    (hlimit : 1 ≤ x.promptLimit) : x.Pending := by
  refine ⟨by simp [hreplies], ?_, ?_⟩
  · simpa [hreplies] using hmore
  · rw [hreplies]
    exact hlimit

theorem promptLimit_of_data (hdata : x.asks .data) : x.promptLimit = 1 := by
  rw [promptLimit, if_pos hdata]

theorem promptLimit_of_auth (hauth : x.asks .auth) : x.promptLimit = 2 := by
  have hdata : x.asks .data = false := by
    rw [asks, beq_iff_eq] at hauth
    rw [asks, hauth]
    rfl
  rw [promptLimit, hdata, if_pos hauth]
  rfl

theorem Answered.finals_eq (hanswered : x.Answered) :
    ∃ final, x.finals = [final] ∧ x.answer? = some final := by
  obtain ⟨prompts, final, hshape, hprompts, hfinal⟩ := hanswered
  have hfront : prompts.filter (fun r => ¬ r.Intermediate) = [] := by
    rw [List.filter_eq_nil_iff]
    intro r hr
    simpa using hprompts.more r hr
  have hfinals : x.finals = [final] := by
    rw [finals, hshape, List.filter_append, hfront]
    simp [hfinal]
  refine ⟨final, hfinals, ?_⟩
  rw [answer?, ← List.head?_filter, ← finals, hfinals]
  rfl

/-- Where every line but the last has its answer, the final reply at a place is the answer to the
line at that place. -/
theorem getElem?_finals {front : List Exchange} (hfront : ∀ x ∈ front, x.Answered)
    (last : Exchange) {place : Nat} (hplace : (front ++ [last])[place]? = some x) :
    ((front ++ [last]).flatMap finals)[place]? = x.answer? := by
  induction front generalizing place with
  | nil =>
      cases place with
      | zero =>
          cases hplace
          rw [List.nil_append, List.flatMap_singleton, ← List.head?_eq_getElem?, finals,
            List.head?_filter, answer?]
      | succ place => simp at hplace
  | cons first front ih =>
      obtain ⟨final, hfinals, hanswer⟩ := (hfront first List.mem_cons_self).finals_eq
      rw [List.cons_append, List.flatMap_cons, hfinals, List.singleton_append]
      cases place with
      | zero =>
          cases hplace
          exact hanswer.symm
      | succ place =>
          exact ih (fun x hx => hfront x (List.mem_cons_of_mem first hx)) hplace

end Exchange

/-- How many replies have asked for more where a response is awaited, at most. -/
def AuthStep.prompts : AuthStep → Nat
  | .credentials | .username => 1
  | .password _ => 2

namespace Turn

/-- Behind the first reply, the final reply at a place answers the line at that place. -/
def InStep (replies : List Reply) (history : List Exchange) : Prop :=
  ∀ (place : Nat) (x : Exchange), history[place]? = some x →
    (replies.tail.filter fun r => ¬ r.Intermediate)[place]? = x.answer?

/-- How the latest line stands with its replies while the connection goes on. -/
inductive Stands (x : Exchange) : Phase → Prop
  | answered (reader : LineReader) (hanswered : x.Answered) : Stands x (.command reader)
  | challenged (step : AuthStep) (reader : LineReader) (hauth : x.asks .auth)
      (hpending : x.Pending) (hsteps : x.replies.length ≤ step.prompts) :
      Stands x (.response step reader)
  | bodyAwaited (decoder : DotDecoder) (hdata : x.asks .data) (hpending : x.Pending) :
      Stands x (.body decoder)
  | handshakeAwaited (hstartTls : x.asks .startTls) (hgo : x.replies = [⟨220, "Go ahead"⟩]) :
      Stands x .handshake

/-- How the latest line stands with its replies when a signal has ended the connection in a
phase. -/
inductive Left (x : Exchange) : Phase → Signal → Prop
  | answered (reader : LineReader) (signal : Signal) (hanswered : x.Answered) :
      Left x (.command reader) signal
  | challenged (step : AuthStep) (reader : LineReader) (hauth : x.asks .auth)
      (hpending : x.Pending) : Left x (.response step reader) .ended
  | bodyAwaited (decoder : DotDecoder) (hdata : x.asks .data) (hpending : x.Pending) :
      Left x (.body decoder) .ended
  | handshakeFailed (signal : Signal) (hsignal : signal = .handshake none ∨ signal = .ended)
      (hstartTls : x.asks .startTls)
      (hreplies : x.replies = [⟨220, "Go ahead"⟩, ⟨550, "Handshake error"⟩]) :
      Left x .handshake signal

/-- How the latest line stands with its replies in a phase that signals have led to. -/
def Latest (service : Service W) (start : Turn W) (signals : List Signal) (phase : Phase)
    (x : Exchange) : Prop :=
  Stands x phase ∨ phase = .closed ∧ ∃ front signal, front ++ [signal] <+: signals ∧
    (start.heedAll service (front ++ [signal])).phase = .closed ∧
    Left x (start.heedAll service front).phase signal

/-- How a connection stands with its replies behind signals. -/
inductive Replying (service : Service W) (start : Turn W) (signals : List Signal) (t : Turn W) :
    Prop
  /-- Nothing has been said yet. -/
  | unopened (hphase : t.phase = .opening) (hjournal : t.journal = [])
  /-- The connection has ended before a line was taken up. -/
  | dismissed (hphase : t.phase = .closed) (hnone : exchanges t.journal = [])
      (hfinal : ∀ r ∈ t.replies, ¬ r.Intermediate)
  /-- The client has been greeted, and no line has been taken up yet. -/
  | greeted (reader : LineReader) (hphase : t.phase = .command reader)
      (hnone : exchanges t.journal = []) (hreplies : t.replies = [bannerReply service])
  /-- Lines have been taken up. -/
  | talking (x : Exchange) (earlier : List Exchange)
      (hexchanges : exchanges t.journal = x :: earlier)
      (hreplies : t.replies =
        bannerReply service :: (x :: earlier).reverse.flatMap Exchange.replies)
      (hlatest : Latest service start signals t.phase x) (hearlier : ∀ y ∈ earlier, y.Answered)

section Replying

variable {service : Service W} {start t after : Turn W} {signals : List Signal} {signal : Signal}
  {x : Exchange} {earlier : List Exchange}

/-- What becomes of the history if more is said about the latest line. -/
theorem Writes.history {replies : List Reply} {banner : Reply} (hwrites : Writes t replies after)
    (hexchanges : exchanges t.journal = x :: earlier)
    (hreplies : t.replies = banner :: (x :: earlier).reverse.flatMap Exchange.replies) :
    ∃ y : Exchange, exchanges after.journal = y :: earlier ∧
      after.replies = banner :: (y :: earlier).reverse.flatMap Exchange.replies ∧
      y.line = x.line ∧ y.replies = x.replies ++ replies := by
  obtain ⟨y, hafter, hline, hmore⟩ := hwrites.exchanges_cons hexchanges
  refine ⟨y, hafter, ?_, hline, hmore⟩
  simp [hwrites.replies_eq, hreplies, hmore]

/-- A connection that has ended does not change any more. -/
theorem Latest.concat (hlatest : Latest service start signals .closed x) :
    Latest service start (signals ++ [signal]) .closed x := by
  rcases hlatest with hstands | ⟨-, front, last, hfront, hclosed, hleft⟩
  · cases hstands
  · exact .inr ⟨rfl, front, last, hfront.trans (List.prefix_append _ _), hclosed, hleft⟩

/-- A signal leads from the turn behind some signals to the next turn. -/
structure Leads (service : Service W) (start : Turn W) (signals : List Signal) (signal : Signal)
    (before after : Turn W) : Prop where
  before_eq : start.heedAll service signals = before
  after_eq : start.heedAll service (signals ++ [signal]) = after

theorem Leads.speaks (hleads : Leads service start signals signal t after) :
    Speaks service t signal after := by
  rw [← hleads.after_eq, heedAll_concat, hleads.before_eq]
  exact heed_speaks service t signal

/-- The signal at hand has ended the connection. -/
theorem Left.latest (hleft : Left x t.phase signal)
    (hleads : Leads service start signals signal t after) (hnext : after.phase = .closed) :
    Latest service start (signals ++ [signal]) after.phase x := by
  refine .inr ⟨hnext, signals, signal, List.prefix_rfl, ?_, ?_⟩
  · rw [hleads.after_eq, hnext]
  · rw [hleads.before_eq]
    exact hleft

theorem Passes.stands {b : UInt8} {before next : Phase} (hpasses : Passes b before next)
    (hstands : Stands x before) : Stands x next := by
  cases hpasses with
  | command reader hb =>
      cases hstands with
      | answered _ hanswered => exact .answered _ hanswered
  | response step reader hb =>
      cases hstands with
      | challenged _ _ hauth hpending hsteps => exact .challenged step _ hauth hpending hsteps
  | body decoder hb =>
      cases hstands with
      | bodyAwaited _ hdata hpending => exact .bodyAwaited _ hdata hpending

/-- How a line that has just been taken up stands with its first reply. -/
theorem Settled.latest {r : Reply} {reader : LineReader} (hsettled : Settled r x.line after.phase)
    (hleads : Leads service start signals signal t after) (hphase : t.phase = .command reader)
    (hreplies : x.replies = [r]) :
    Latest service start (signals ++ [signal]) after.phase x := by
  have hasks : ∀ {line : CommandLine} {verb : CommandLine.Verb}, x.line = some line →
      line.verb? = some verb → x.asks verb := by
    intro line verb hline hverb
    rw [Exchange.asks, hline, Option.bind_some, hverb, beq_self_eq_true]
  generalize hnext : after.phase = next at hsettled
  generalize hline : x.line = line at hsettled
  cases hsettled with
  | answered line hfinal => exact .inl (.answered _ (Exchange.answered_of_final hreplies hfinal))
  | left line hfinal =>
      have hleft : Left x t.phase signal := by
        rw [hphase]
        exact .answered reader signal (Exchange.answered_of_final hreplies hfinal)
      rw [← hnext]
      exact hleft.latest hleads hnext
  | challenged command step hverb hmore =>
      have hauth := hasks hline hverb
      have hlimit : 1 ≤ x.promptLimit := by
        rw [Exchange.promptLimit_of_auth hauth]
        decide
      refine .inl (.challenged step _ hauth (Exchange.pending_of_prompt hreplies hmore hlimit) ?_)
      rw [hreplies]
      cases step with
      | credentials | username | password => simp [AuthStep.prompts]
  | bodyAwaited command decoder hverb hmore =>
      have hdata := hasks hline hverb
      have hlimit : 1 ≤ x.promptLimit := (Exchange.promptLimit_of_data hdata).ge
      exact .inl (.bodyAwaited decoder hdata (Exchange.pending_of_prompt hreplies hmore hlimit))
  | handshakeAwaited command hverb hgo =>
      exact .inl (.handshakeAwaited (hasks hline hverb) (hgo ▸ hreplies))

/-- A response goes on with an exchange or ends it. -/
theorem Stands.respond {step : AuthStep} {reader : LineReader} {r : Reply} {y : Exchange}
    (hstands : Stands x (.response step reader)) (hline : y.line = x.line)
    (hmore : y.replies = x.replies ++ [r])
    (hsettled : (after.phase = .command {} ∧ ¬ r.Intermediate) ∨ ∃ username,
      step = .username ∧ after.phase = .response (.password username) {} ∧ r.Intermediate) :
    Stands y after.phase := by
  cases hstands with
  | challenged _ _ hauth hpending hsteps =>
      rcases hsettled with ⟨hnext, hfinal⟩ | ⟨username, hstep, hnext, hintermediate⟩
      · rw [hnext]
        exact .answered _ (hpending.answered hline hmore hfinal)
      · have hagain : y.asks .auth := by rwa [Exchange.asks_of_line hline]
        have htwo : y.replies.length ≤ 2 := by
          rw [hmore, List.length_append]
          rw [hstep] at hsteps
          exact Nat.add_le_add_right hsteps 1
        have hprompts : ∀ prompt ∈ y.replies, prompt.Intermediate := by
          rw [hmore]
          exact List.forall_mem_append.mpr
            ⟨hpending.prompts.more, by simpa using hintermediate⟩
        rw [hnext]
        refine .challenged _ _ hagain ⟨by simp [hmore], hprompts, ?_⟩ htwo
        rw [Exchange.promptLimit_of_auth hagain]
        exact htwo

/-- The client sends nothing any more. -/
theorem Stands.leave {y : Exchange} {phase : Phase} (hstands : Stands x phase)
    (hline : y.line = x.line) (hreplies : y.replies = x.replies) (hopen : phase ≠ .handshake) :
    Left y phase .ended := by
  cases hstands with
  | answered reader hanswered => exact .answered _ _ (hanswered.of_line hline hreplies)
  | challenged step reader hauth hpending hsteps =>
      refine .challenged step reader ?_ (hpending.of_line hline hreplies)
      rwa [Exchange.asks_of_line hline]
  | bodyAwaited decoder hdata hpending =>
      refine .bodyAwaited decoder ?_ (hpending.of_line hline hreplies)
      rwa [Exchange.asks_of_line hline]
  | handshakeAwaited hstartTls hgo => exact absurd rfl hopen

/-- Nothing is said behind the end of a connection. -/
theorem Speaks.of_closed (hspeaks : Speaks service t signal after) (hlive : signal ≠ .expired)
    (hphase : t.phase = .closed) : after.phase = .closed ∧ after.journal = t.journal := by
  cases hspeaks with
  | still hline hsame hnext =>
      rcases hnext with hnext | ⟨b, hpasses⟩
      · exact ⟨hnext.trans hphase, hsame⟩
      · rw [hphase] at hpasses
        cases hpasses
  | ended hopen => exact absurd hphase hopen.2.2
  | expired hwrites => exact absurd rfl hlive
  | took _ _ hother | responded _ _ hother | bodyEnded _ hother | greeted hother
  | dismissed hother | upgraded hother | upgradeFailed hother => simp [hphase] at hother

variable (hplain : service.RefusesPlainly) (hlive : signal ≠ .expired)
  (hleads : Leads service start signals signal t after)

include hplain hleads

/-- A line is taken up when those before it have their answers. -/
theorem Replying.take {line : Option CommandLine} {r : Reply} {opened : Turn W}
    {reader : LineReader} {history : List Exchange} (hphase : t.phase = .command reader)
    (hopened : exchanges opened.journal = ⟨line, []⟩ :: history)
    (hreplies : opened.replies = bannerReply service :: history.reverse.flatMap Exchange.replies)
    (hhistory : ∀ y ∈ history, y.Answered) (hwrites : Writes opened [r] after)
    (hsettled : service.RefusesPlainly → Settled r line after.phase) :
    Replying service start (signals ++ [signal]) after := by
  have htold : opened.replies = bannerReply service ::
      ((⟨line, []⟩ : Exchange) :: history).reverse.flatMap Exchange.replies := by
    simp [hreplies, Exchange.replies]
  obtain ⟨y, hexchanges, hafter, hline, hmore⟩ := hwrites.history hopened htold
  have hfirst : Settled r y.line after.phase := by
    rw [hline]
    exact hsettled hplain
  exact .talking y history hexchanges hafter (hfirst.latest hleads hphase hmore) hhistory

include hlive

theorem Replying.of_unopened (hphase : t.phase = .opening) (hjournal : t.journal = []) :
    Replying service start (signals ++ [signal]) after := by
  have hnone : exchanges t.journal = [] := by
    rw [hjournal]
    rfl
  have hsilent : t.replies = [] := by
    rw [Session.replies, hjournal]
    rfl
  cases hleads.speaks with
  | still hline hsame hnext =>
      rcases hnext with hnext | ⟨b, hpasses⟩
      · exact .unopened (hnext.trans hphase) (hsame.trans hjournal)
      · rw [hphase] at hpasses
        cases hpasses
  | greeted hopening hline hwrites hnext =>
      refine .greeted {} hnext (hwrites.exchanges_nil hnone) ?_
      rw [hwrites.replies_eq, hsilent]
      rfl
  | dismissed hopening hline hwrites hnext hfinal =>
      refine .dismissed hnext (hwrites.exchanges_nil hnone) ?_
      rw [hwrites.replies_eq, hsilent]
      exact hfinal hplain
  | ended hopen => exact absurd hphase hopen.1
  | expired hwrites => exact absurd rfl hlive
  | took _ _ hother | responded _ _ hother | bodyEnded _ hother | upgraded hother
  | upgradeFailed hother => simp [hphase] at hother

theorem Replying.of_greeted {reader : LineReader} (hphase : t.phase = .command reader)
    (hnone : exchanges t.journal = []) (hreplies : t.replies = [bannerReply service]) :
    Replying service start (signals ++ [signal]) after := by
  cases hleads.speaks with
  | still hline hsame hnext =>
      have hwrites : Writes t [] after := .of_journal hsame
      have hcommand : ∃ next, after.phase = .command next := by
        rcases hnext with hnext | ⟨b, hpasses⟩
        · exact ⟨reader, hnext.trans hphase⟩
        · rw [hphase] at hpasses
          generalize after.phase = next at hpasses
          cases hpasses with
          | command reader hb => exact ⟨_, rfl⟩
      obtain ⟨next, hcommand⟩ := hcommand
      refine .greeted next hcommand (hwrites.exchanges_nil hnone) ?_
      rw [hwrites.replies_eq, hreplies, List.append_nil]
  | took opened reader hcommand hline hopened hsame hwrites hsettled =>
      rw [hnone] at hopened
      refine .take hplain hleads hcommand hopened ?_ (List.forall_mem_nil _) hwrites hsettled
      rw [hsame, hreplies]
      rfl
  | ended hopen hwrites hnext =>
      refine .dismissed hnext (hwrites.exchanges_nil hnone) ?_
      rw [hwrites.replies_eq, hreplies]
      simp [Reply.Intermediate, bannerReply]
  | expired hwrites => exact absurd rfl hlive
  | responded _ _ hother | bodyEnded _ hother | greeted hother | dismissed hother
  | upgraded hother | upgradeFailed hother => simp [hphase] at hother

/-- The latest line has its answer when another one is taken up. -/
theorem Replying.of_stands (hexchanges : exchanges t.journal = x :: earlier)
    (hreplies : t.replies = bannerReply service :: (x :: earlier).reverse.flatMap Exchange.replies)
    (hstands : Stands x t.phase) (hearlier : ∀ y ∈ earlier, y.Answered) :
    Replying service start (signals ++ [signal]) after := by
  have hsilent : after.journal = t.journal → Stands x after.phase →
      Replying service start (signals ++ [signal]) after := by
    intro hsame hnext
    refine .talking x earlier (by rw [hsame, hexchanges]) ?_ (.inl hnext) hearlier
    rw [Session.replies, hsame]
    exact hreplies
  cases hleads.speaks with
  | still hline hsame hnext =>
      refine hsilent hsame ?_
      rcases hnext with hnext | ⟨b, hpasses⟩
      · rw [hnext]
        exact hstands
      · exact hpasses.stands hstands
  | took opened reader hcommand hline hopened hsame hwrites hsettled =>
      have hanswered : x.Answered := by
        rw [hcommand] at hstands
        cases hstands with
        | answered _ hanswered => exact hanswered
      rw [hexchanges] at hopened
      exact .take hplain hleads hcommand hopened (hsame.trans hreplies)
        (List.forall_mem_cons.mpr ⟨hanswered, hearlier⟩) hwrites hsettled
  | responded step reader hresponse hwrites hsettled =>
      obtain ⟨y, hafter, htold, hline, hmore⟩ := hwrites.history hexchanges hreplies
      rw [hresponse] at hstands
      have hnext := hstands.respond hline hmore (hsettled hplain)
      exact .talking y earlier hafter htold (.inl hnext) hearlier
  | bodyEnded decoder hbody hwrites hnext hfinal =>
      obtain ⟨y, hafter, htold, hline, hmore⟩ := hwrites.history hexchanges hreplies
      refine .talking y earlier hafter htold (.inl ?_) hearlier
      rw [hbody] at hstands
      cases hstands with
      | bodyAwaited _ hdata hpending =>
          rw [hnext]
          exact .answered _ (hpending.answered hline hmore (hfinal hplain))
  | upgraded hhandshake hsame hnext =>
      refine hsilent hsame ?_
      rw [hhandshake] at hstands
      cases hstands with
      | handshakeAwaited hstartTls hgo =>
          rw [hnext]
          exact .answered _ (Exchange.answered_of_final hgo (by decide))
  | upgradeFailed hhandshake hsignal hwrites hnext =>
      obtain ⟨y, hafter, htold, hline, hmore⟩ := hwrites.history hexchanges hreplies
      have hleft : Left y t.phase signal := by
        rw [hhandshake] at hstands ⊢
        cases hstands with
        | handshakeAwaited hstartTls hgo =>
            refine .handshakeFailed signal hsignal ?_ ?_
            · rwa [Exchange.asks_of_line hline]
            · rw [hmore, hgo]
              rfl
      exact .talking y earlier hafter htold (hleft.latest hleads hnext) hearlier
  | ended hopen hwrites hnext =>
      obtain ⟨y, hafter, htold, hline, hmore⟩ := hwrites.history hexchanges hreplies
      rw [List.append_nil] at hmore
      have hleft := hstands.leave hline hmore hopen.2.1
      exact .talking y earlier hafter htold (hleft.latest hleads hnext) hearlier
  | expired hwrites => exact absurd rfl hlive
  | greeted hopening | dismissed hopening =>
      rw [hopening] at hstands
      cases hstands

theorem Replying.heed (hreplying : Replying service start signals t) :
    Replying service start (signals ++ [signal]) after := by
  cases hreplying with
  | unopened hphase hjournal => exact .of_unopened hplain hlive hleads hphase hjournal
  | dismissed hphase hnone hfinal =>
      obtain ⟨hnext, hsame⟩ := hleads.speaks.of_closed hlive hphase
      refine .dismissed hnext (by rw [hsame, hnone]) ?_
      rw [Session.replies, hsame]
      exact hfinal
  | greeted reader hphase hnone hreplies =>
      exact .of_greeted hplain hlive hleads hphase hnone hreplies
  | talking x earlier hexchanges hreplies hlatest hearlier =>
      rcases hlatest with hstands | hended
      · exact .of_stands hplain hlive hleads hexchanges hreplies hstands hearlier
      · obtain ⟨hnext, hsame⟩ := hleads.speaks.of_closed hlive hended.1
        refine .talking x earlier (by rw [hsame, hexchanges]) ?_ ?_ hearlier
        · rw [Session.replies, hsame]
          exact hreplies
        · rw [hnext]
          exact Latest.concat (.inr ⟨rfl, hended.2⟩)

omit hlive hleads in
/-- Whatever happens, apart from a deadline that passes, a connection stands in order with its
replies. -/
theorem heedAll_replying (hstart : Replying service start [] start)
    (hlive : .expired ∉ signals) :
    Replying service start signals (start.heedAll service signals) := by
  -- How a connection stands depends on all the signals so far, so the last one is split off.
  induction signals using List.reverseRecOn with
  | nil => exact hstart
  | append_singleton signals signal ih =>
      rw [List.mem_append, not_or] at hlive
      have hsignal : signal ≠ .expired := by
        rintro rfl
        exact hlive.2 (List.mem_singleton_self _)
      exact (ih hlive.1).heed hplain hsignal ⟨rfl, rfl⟩

omit hlive hleads in
theorem start_replying (tx : Transaction) (world : W) :
    Replying service (Turn.start service tx world) [] (Turn.start service tx world) := by
  have hnone := start_exchanges service tx world
  generalize hstarted : Turn.start service tx world = started at hnone
  rw [Turn.start] at hstarted
  split at hstarted
  · subst hstarted
    exact .unopened rfl rfl
  · rcases (begin_begun service { transaction := tx, phase := .opening, world }).writes with
      ⟨hwrites, hnext⟩ | ⟨r, hwrites, hnext, hfinal⟩
    · rw [hstarted] at hwrites hnext
      exact .greeted {} hnext hnone hwrites.replies_eq
    · rw [hstarted] at hwrites hnext
      refine .dismissed hnext hnone ?_
      rw [hwrites.replies_eq]
      simpa [Session.replies] using hfinal hplain

end Replying

/-- Without a deadline among inputs there is none among their signals. -/
theorem expired_notMem_signals {inputs : List Input} (hlive : .expired ∉ inputs) :
    Signal.expired ∉ inputs.flatMap Input.signals := by
  intro hmem
  obtain ⟨input, hinput, hsignal⟩ := List.mem_flatMap.mp hmem
  cases input with
  | bytes chunk => simp [Input.signals] at hsignal
  | handshake result => simp [Input.signals] at hsignal
  | ended => simp [Input.signals] at hsignal
  | expired => exact hlive hinput

/-- Where checkers refuse only with codes that turn a client down and no deadline passes, a client
that counts replies knows what became of its lines.  The exchanges of a connection are about the
lines that were taken up, in their order.  If there are any, the banner comes first and then what
each line was answered with: every line but the last one has its answer, and how the last one stands
depends on what is read next, or on where the connection ended.  The final reply at a place behind
the banner answers the line at that place. -/
theorem run_lines_answered {service : Service W} (hplain : service.RefusesPlainly)
    (tx : Transaction) (world : W) {inputs : List Input} (hlive : .expired ∉ inputs) :
    let start := Turn.start service tx world
    let signals := inputs.flatMap Input.signals
    let t := start.run service inputs
    let history := (exchanges t.journal).reverse
    history.map Exchange.line = start.linesFrom service signals ∧
      (history = [] ∧ (∀ r ∈ t.replies, ¬ r.Intermediate) ∨
        t.replies = bannerReply service :: history.flatMap Exchange.replies) ∧
      (∀ x ∈ history.dropLast, x.Answered) ∧
      (∀ x ∈ history.getLast?, Latest service start signals t.phase x) ∧
      InStep t.replies history := by
  intro start signals t history
  have hrun : start.heedAll service signals = t := (run_eq_heedAll service start inputs).symm
  have hlines : history.map Exchange.line = start.linesFrom service signals := by
    rw [← heedAll_lines (start_exchanges service tx world) signals, hrun]
  have hreplying : Replying service start signals t := by
    rw [← hrun]
    exact heedAll_replying hplain (start_replying hplain tx world) (expired_notMem_signals hlive)
  have hempty : exchanges t.journal = [] → (∀ x ∈ history.dropLast, x.Answered) ∧
      (∀ x ∈ history.getLast?, Latest service start signals t.phase x) ∧
      InStep t.replies history := by
    intro hnone
    have hhistory : history = [] := by simp [history, hnone]
    simp [hhistory, InStep]
  cases hreplying with
  | unopened hphase hjournal =>
      have hnone : exchanges t.journal = [] := by
        rw [hjournal]
        rfl
      refine ⟨hlines, .inl ⟨by simp [history, hnone], ?_⟩, hempty hnone⟩
      simp [Session.replies, hjournal]
  | dismissed hphase hnone hfinal =>
      exact ⟨hlines, .inl ⟨by simp [history, hnone], hfinal⟩, hempty hnone⟩
  | greeted reader hphase hnone hreplies =>
      refine ⟨hlines, .inr ?_, hempty hnone⟩
      simp [history, hnone, hreplies]
  | talking x earlier hexchanges hreplies hlatest hearlier =>
      have hhistory : history = earlier.reverse ++ [x] := by simp [history, hexchanges]
      have hfront : ∀ y ∈ earlier.reverse, y.Answered := fun y hy =>
        hearlier y (List.mem_reverse.mp hy)
      rw [← hexchanges] at hreplies
      refine ⟨hlines, .inr hreplies, ?_, ?_, ?_⟩
      · rw [hhistory, List.dropLast_concat]
        exact hfront
      · rw [hhistory, List.getLast?_concat]
        intro y hy
        cases hy
        exact hlatest
      · intro place y hplace
        rw [hhistory] at hplace
        rw [hreplies, List.tail_cons, List.filter_flatMap, hexchanges, List.reverse_cons]
        exact Exchange.getElem?_finals hfront x hplace

end Turn

namespace Sample

theorem members_refusesPlainly : members.RefusesPlainly where
  stages stage checker hchecker := by
    cases stage with
    | connection | helo | sender | recipient candidate | data | handler | close => cases hchecker
  authenticator authenticator hauthenticator username password tx office r hr := by
    cases hauthenticator
    simp only [Users.authenticator] at hr
    split at hr
    · cases hr
    · cases hr
      decide

end Sample

namespace Turn

theorem run_lines_answered_login :
    let inputs := [.handshake (some Sample.agreement), .bytes Sample.login]
    let t := Sample.joined.run Sample.members inputs
    let history := (exchanges t.journal).reverse
    history.map (fun x => x.replies.map Reply.code) = [[250], [334, 501], [235]] ∧
      (∀ x ∈ history.dropLast, x.Answered) ∧
      InStep t.replies history := by
  intro inputs t history
  have hlive : .expired ∉ inputs := by decide
  obtain ⟨-, -, hfront, -, hplaces⟩ := run_lines_answered Sample.members_refusesPlainly
    (.start ⟨1⟩ "mx" Sample.place Sample.place) Sample.office hlive
  exact ⟨by decide +kernel, hfront, hplaces⟩

end Turn
end MailIntake
