import MailIntake.Proofs.Session.Envelope
import MailIntake.Proofs.Session.Script
/-!
Where a user name and a password come from.  A client has them if and only if the authenticator was
asked about them on this connection and let them pass; it is asked on encrypted connections alone,
about clients that have greeted, have no name yet and have begun no message
(`run_provenance`).
-/
namespace MailIntake

universe u

variable {W : Type u}

/-- What a client is known by, and whether the connection is encrypted. -/
structure Credentials where
  username : Option String
  password : Option String
  encrypted : Bool

def Peer.credentials (p : Peer) : Credentials :=
  ⟨p.username, p.password, p.encrypted⟩

/-- A question that the authenticator was asked, and its answer. -/
structure Question where
  username : String
  password : String
  refusal : Option Refusal

def Event.question? : Event → Option Question
  | .authenticated username password refusal => some ⟨username, password, refusal⟩
  | .command _ | .overlong | .stage _ _ | .checked _ _ _ | .replied _ => none

def questions (journal : List Event) : List Question :=
  journal.filterMap Event.question?

/-- Who a client is by the questions that were asked, the latest first: nobody if all were refused,
and otherwise whom the only one that was not refused is about, which is the last one. -/
inductive Vouched (service : Service W) : List Question → Credentials → Prop
  | stranger {asked : List Question} (encrypted : Bool)
      (hrefused : ∀ q ∈ asked, q.refusal.isSome) :
      Vouched service asked ⟨none, none, encrypted⟩
  | known {earlier : List Question} (username password : String)
      (hconfigured : service.authenticator.isSome) (hrefused : ∀ q ∈ earlier, q.refusal.isSome) :
      Vouched service (⟨username, password, none⟩ :: earlier)
        ⟨some username, some password, true⟩

theorem questions_append (newer older : List Event) :
    questions (newer ++ older) = questions newer ++ questions older :=
  List.filterMap_append

/-- A client without a user name has no password. -/
theorem Vouched.nobody {service : Service W} {asked : List Question} {c : Credentials}
    (hvouched : Vouched service asked c) (husername : c.username = none) :
    c.password = none ∧ ∀ q ∈ asked, q.refusal.isSome := by
  cases hvouched with
  | stranger encrypted hrefused => exact ⟨rfl, hrefused⟩
  | known username password hconfigured hrefused => cases husername

/-- Encryption may come without a question. -/
theorem Vouched.encrypt {service : Service W} {asked : List Question} {c : Credentials}
    (hvouched : Vouched service asked c) {encrypted : Bool}
    (hencrypted : c.encrypted = true → encrypted = true) :
    Vouched service asked ⟨c.username, c.password, encrypted⟩ := by
  cases hvouched with
  | stranger before hrefused => exact .stranger encrypted hrefused
  | known username password hconfigured hrefused =>
      rw [hencrypted rfl]
      exact .known username password hconfigured hrefused

/-- A question that is refused leaves a stranger a stranger. -/
theorem Vouched.refuse {service : Service W} {asked : List Question} {c : Credentials}
    (hvouched : Vouched service asked c) (husername : c.username = none) {q : Question}
    (hrefusal : q.refusal.isSome) : Vouched service (q :: asked) c := by
  cases hvouched with
  | stranger encrypted hrefused =>
      exact .stranger encrypted (List.forall_mem_cons.mpr ⟨hrefusal, hrefused⟩)
  | known username password hconfigured hrefused => cases husername

/-- Events with which nobody is asked about credentials, and stages that see a client with some. -/
def Event.Shows (look : Credentials) : Event → Prop
  | .stage _ tx => tx.peer.credentials = look
  | .authenticated _ _ _ => False
  | .command _ | .overlong | .checked _ _ _ | .replied _ => True

/-- If trusted clients may not speak for others and no checker changes credentials, they are to be
seen. -/
theorem Service.sees_credentials {service : Service W}
    (hxclient : service.settings.enableXclient = false)
    (hkeeps : service.Keeps fun tx _ => tx.peer.credentials) :
    service.Sees Peer.credentials where
  greeting _ _ _ := rfl
  address _ _ _ _ := rfl
  attributes henabled := by simp [hxclient] at henabled
  stages := hkeeps.stages

section Script

variable {service : Service W} {look : Credentials} {newer older : List Event}

theorem Script.questions_eq (hscript : Script service (Event.Shows look) newer) :
    questions newer = [] := by
  induction hscript with
  | nil => rfl
  | other e hother he _ ih =>
      cases e with
      | authenticated username password refusal => exact he.elim
      | command | overlong | stage | checked | replied => exact ih
  | @run checks rest stage tx refusal hstart hran _ ih =>
      have hchecks : ∀ e ∈ checks, e.question? = none := by
        intro e he
        obtain ⟨place, answer, rfl⟩ := hran.verdicts.eq_checked he
        rfl
      rw [questions_append, questions, List.filterMap_eq_nil_iff.mpr hchecks]
      exact ih

/-- Where a stage begins, the client is who it is by the questions before. -/
def VouchedAt (service : Service W) (tx : Transaction) (older : List Event) : Prop :=
  Vouched service (questions older) tx.peer.credentials

theorem Script.vouched (hvouched : Vouched service (questions older) look)
    (holder : ∀ stage, EachStart stage (VouchedAt service) older)
    (hscript : Script service (Event.Shows look) newer) (stage : Stage) :
    EachStart stage (VouchedAt service) (newer ++ older) := by
  induction hscript with
  | nil => exact holder stage
  | @other rest e hother he _ ih =>
      have hskips := (Reading.eachStart stage (VouchedAt service)).skips e (rest ++ older)
        (hother stage)
      exact hskips.mpr ih
  | @run checks rest other tx refusal hstart hran hrest ih =>
      have hchecks : ∀ tx, .stage stage tx ∉ checks := by
        intro tx hmem
        obtain ⟨place, answer, heq⟩ := hran.verdicts.eq_checked hmem
        cases heq
      have hlook : VouchedAt service tx (rest ++ older) := by
        have hshown : tx.peer.credentials = look := hstart
        rw [VouchedAt, questions_append, hrest.questions_eq, List.nil_append, hshown]
        exact hvouched
      rw [List.append_assoc, eachStart_append hchecks]
      refine ⟨?_, ih⟩
      intro begun hbegun
      cases hbegun
      exact hlook

end Script

namespace Turn

/-- Between two turns the authenticator was not asked, and the client is who it was, on an encrypted
connection if it was one. -/
structure Unasked (service : Service W) (before after : Turn W) : Prop where
  username : after.transaction.peer.username = before.transaction.peer.username
  password : after.transaction.peer.password = before.transaction.peer.password
  encrypted : before.transaction.peer.encrypted = true → after.transaction.peer.encrypted = true
  journal : ∃ newer, after.journal = newer ++ before.journal ∧
    Script service (Event.Shows after.transaction.peer.credentials) newer

section Unasked

variable {service : Service W} {before t after : Turn W}

theorem Unasked.refl (t : Turn W) : Unasked service t t :=
  ⟨rfl, rfl, id, [], rfl, .nil⟩

theorem Unasked.of_stays (hstays : Stays service Peer.credentials before after) :
    Unasked service before after := by
  obtain ⟨newer, hnewer, hscript⟩ := hstays.journal
  refine ⟨congrArg Credentials.username hstays.peer, congrArg Credentials.password hstays.peer,
    (congrArg Credentials.encrypted hstays.peer).trans, newer, hnewer, hscript.mono ?_⟩
  intro e he
  cases e with
  | stage stage tx => exact he.2.trans hstays.peer.symm
  | authenticated username password refusal => exact he.elim
  | command | overlong | checked | replied => trivial

/-- Encryption is all that a handshake changes. -/
theorem Unasked.encrypt (t : Turn W) (h : Handshake) : Unasked service t (t.encrypt h) :=
  ⟨rfl, rfl, fun _ => rfl, [], rfl, .nil⟩

theorem Unasked.of_same (hunasked : Unasked service before t)
    (hcredentials : after.transaction.peer.credentials = t.transaction.peer.credentials)
    (hjournal : after.journal = t.journal) : Unasked service before after := by
  obtain ⟨newer, hnewer, hscript⟩ := hunasked.journal
  refine ⟨(congrArg Credentials.username hcredentials).trans hunasked.username,
    (congrArg Credentials.password hcredentials).trans hunasked.password,
    fun h => (congrArg Credentials.encrypted hcredentials).trans (hunasked.encrypted h), newer,
    hjournal.trans hnewer, ?_⟩
  rw [hcredentials]
  exact hscript

theorem Unasked.reply (hunasked : Unasked service before t) (code : UInt16) (message : String) :
    Unasked service before (t.reply code message) := by
  obtain ⟨newer, hnewer, hscript⟩ := hunasked.journal
  refine ⟨by rw [reply_transaction, hunasked.username],
    by rw [reply_transaction, hunasked.password], by rw [reply_transaction]; exact
    hunasked.encrypted, .replied ⟨code, message⟩ :: newer, ?_, ?_⟩
  · rw [reply_journal, hnewer, List.cons_append]
  · rw [reply_transaction]
    exact hscript.replied _ trivial

theorem Unasked.runStage {stage : Stage} {refusal : Option Refusal}
    (hkeeps : service.Keeps fun tx _ => tx.peer.credentials)
    (hunasked : Unasked service before t) (hrun : t.runStage service stage = (after, refusal)) :
    Unasked service before after := by
  obtain ⟨checks, hran, hjournal⟩ := ran_of_runStage hrun
  obtain ⟨newer, hnewer, hscript⟩ := hunasked.journal
  have hcredentials := seen_of_runStage (hkeeps.stages stage) hrun
  refine ⟨(congrArg Credentials.username hcredentials).trans hunasked.username,
    (congrArg Credentials.password hcredentials).trans hunasked.password,
    fun h => (congrArg Credentials.encrypted hcredentials).trans (hunasked.encrypted h),
    checks ++ .stage stage t.transaction :: newer, ?_, ?_⟩
  · rw [hjournal, hnewer, List.append_assoc, List.cons_append]
  · rw [hcredentials]
    exact .run stage t.transaction refusal rfl hran hscript

theorem Unasked.close (hkeeps : service.Keeps fun tx _ => tx.peer.credentials)
    (hunasked : Unasked service before t) : Unasked service before (t.close service) := by
  cases hrun : t.runStage service .close with
  | mk after refusal =>
      rw [close_eq service t hrun]
      exact (hunasked.runStage hkeeps hrun).of_same rfl rfl

theorem Unasked.begun (hkeeps : service.Keeps fun tx _ => tx.peer.credentials)
    (hunasked : Unasked service before t) (hbegun : Begun service t after) :
    Unasked service before after := by
  have hlooked : Unasked service before (t.lookUpNames service) := hunasked.of_same rfl rfl
  cases hbegun with
  | refused mid r hrun => exact ((hlooked.runStage hkeeps hrun).reply r.code r.message).close hkeeps
  | greeted mid hrun =>
      have hgreeted := (hlooked.runStage hkeeps hrun).reply 220
        (service.hostname ++ " " ++ service.settings.banner)
      exact ⟨hgreeted.username, hgreeted.password, hgreeted.encrypted, hgreeted.journal⟩

theorem Unasked.questions_eq (hunasked : Unasked service before after) :
    questions after.journal = questions before.journal := by
  obtain ⟨newer, hnewer, hscript⟩ := hunasked.journal
  rw [hnewer, questions_append, hscript.questions_eq, List.nil_append]

end Unasked

/-- What the authenticator is asked, and what it says, where it may be asked. -/
structure Asks (service : Service W) (t : Turn W) (q : Question) : Prop where
  may : t.transaction.MayAuthenticate
  answer : ∃ authenticator, service.authenticator = some authenticator ∧
    (authenticator q.username q.password t.transaction t.world).refusal = q.refusal

/-- What becomes of the credentials of a client with one signal. -/
inductive Credits (service : Service W) (t after : Turn W) : Prop
  | unasked (hquestions : questions after.journal = questions t.journal)
      (husername : after.transaction.peer.username = t.transaction.peer.username)
      (hpassword : after.transaction.peer.password = t.transaction.peer.password)
      (hencrypted : t.transaction.peer.encrypted = true →
        after.transaction.peer.encrypted = true)
  | refused (q : Question) (hasks : Asks service t q) (hrefusal : q.refusal.isSome)
      (hquestions : questions after.journal = q :: questions t.journal)
      (hcredentials : after.transaction.peer.credentials = t.transaction.peer.credentials)
  | accepted (q : Question) (hasks : Asks service t q) (hrefusal : q.refusal = none)
      (hquestions : questions after.journal = q :: questions t.journal)
      (hcredentials : after.transaction.peer.credentials =
        ⟨some q.username, some q.password, true⟩)

section Credits

variable {service : Service W} {before t after : Turn W}

theorem Asks.of_same {q : Question} (hasks : Asks service before q)
    (htransaction : before.transaction = t.transaction) (hworld : before.world = t.world) :
    Asks service t q := by
  obtain ⟨hmay, authenticator, hauthenticator, hanswer⟩ := hasks
  rw [htransaction, hworld] at hanswer
  exact ⟨htransaction ▸ hmay, authenticator, hauthenticator, hanswer⟩

theorem Unasked.credits (hunasked : Unasked service t after) : Credits service t after :=
  .unasked hunasked.questions_eq hunasked.username hunasked.password hunasked.encrypted

/-- Replies and what is counted are of no account. -/
theorem Credits.of_same (hcredits : Credits service t before)
    (hcredentials : after.transaction.peer.credentials = before.transaction.peer.credentials)
    (hquestions : questions after.journal = questions before.journal) :
    Credits service t after := by
  cases hcredits with
  | unasked hasked husername hpassword hencrypted =>
      exact .unasked (hquestions.trans hasked)
        ((congrArg Credentials.username hcredentials).trans husername)
        ((congrArg Credentials.password hcredentials).trans hpassword)
        fun h => (congrArg Credentials.encrypted hcredentials).trans (hencrypted h)
  | refused q hasks hrefusal hasked hsame =>
      exact .refused q hasks hrefusal (hquestions.trans hasked) (hcredentials.trans hsame)
  | accepted q hasks hrefusal hasked hknown =>
      exact .accepted q hasks hrefusal (hquestions.trans hasked) (hcredentials.trans hknown)

theorem Credits.reply (hcredits : Credits service t before) (code : UInt16) (message : String) :
    Credits service t (before.reply code message).conclude := by
  refine hcredits.of_same ?_ ?_
  · rw [conclude_transaction, reply_transaction]
  · rw [conclude_journal, reply_journal]
    rfl

/-- With one more response of an exchange the authenticator may be asked. -/
theorem Exchanged.credits (hkeeps : service.Keeps fun tx _ => tx.peer.credentials)
    (hmay : t.transaction.MayAuthenticate) (hexchanged : Exchanged service t after) :
    Credits service t after := by
  have hsame : Credits service t t := (Unasked.refl t).credits
  have hasked : ∀ authenticator username password, service.authenticator = some authenticator →
      (t.questioned authenticator username password).transaction.peer.credentials =
        t.transaction.peer.credentials := fun authenticator username password hauthenticator =>
    hkeeps.authenticator authenticator hauthenticator username password t.transaction t.world
  cases hexchanged with
  | refused cost code message hcode =>
      have hpenalized : Credits service t (t.penalize cost) := hsame.of_same rfl rfl
      exact hpenalized.reply code message
  | challenged step =>
      refine hsame.of_same ?_ ?_
      · rw [challenge_transaction]
      · rw [challenge_journal]
        rfl
  | rejected authenticator username password r hauthenticator hverdict =>
      have hquestioned : Credits service t (t.questioned authenticator username password) := by
        refine .refused ⟨username, password, some r⟩
          ⟨hmay, authenticator, hauthenticator, hverdict⟩ rfl ?_
          (hasked authenticator username password hauthenticator)
        rw [questioned_journal, hverdict]
        rfl
      have hpenalized : Credits service t ((t.questioned authenticator username password).penalize
        Karma.authenticationFailed) := hquestioned.of_same rfl rfl
      exact hpenalized.reply r.code r.message
  | accepted authenticator username password hauthenticator hverdict =>
      have hquestioned : Credits service t
          ((t.questioned authenticator username password).signIn username password) := by
        refine .accepted ⟨username, password, none⟩
          ⟨hmay, authenticator, hauthenticator, hverdict⟩ rfl ?_ ?_
        · change questions (t.questioned authenticator username password).journal = _
          rw [questioned_journal, hverdict]
          rfl
        · have hencrypted := congrArg Credentials.encrypted
            (hasked authenticator username password hauthenticator)
          change Credentials.mk _ _ _ = _
          exact congrArg (Credentials.mk _ _) (hencrypted.trans hmay.encrypted)
      exact hquestioned.reply 235 _

/-- With a signal the authenticator is not asked, or an exchange goes on in which it may be. -/
theorem Proceeds.unasked (hkeeps : service.Keeps fun tx _ => tx.peer.credentials)
    (hawaits : ∀ step reader, t.phase = .response step reader → t.transaction.MayAuthenticate)
    (hproceeds : Proceeds service Peer.credentials t after) :
    Unasked service t after ∨ ∃ told, Unasked service t told ∧ told.transaction = t.transaction ∧
      told.world = t.world ∧ told.transaction.MayAuthenticate ∧ Exchanged service told after := by
  cases hproceeds with
  | still htransaction hjournal hphase =>
      exact .inl ((Unasked.refl t).of_same (by rw [htransaction]) hjournal)
  | on htalking hstays hphase => exact .inl (.of_stays hstays)
  | left htalking hstays => exact .inl ((Unasked.of_stays hstays).close hkeeps)
  | @exchanged told _ hstays htransaction hworld hphase hexchanged =>
      refine .inr ⟨told, .of_stays hstays, htransaction, hworld, ?_, hexchanged⟩
      rw [htransaction]
      rcases hphase with ⟨step, reader, hphase⟩ | ⟨-, hmay⟩
      · exact hawaits step reader hphase
      · exact hmay
  | @failed told hphase hpeer hjournal =>
      have htold : Unasked service t told :=
        (Unasked.refl t).of_same (congrArg Peer.credentials hpeer) hjournal
      exact .inl (htold.close hkeeps)
  | begun h hphase hbegun => exact .inl ((Unasked.encrypt t h).begun hkeeps hbegun)
  | upgraded h hphase =>
      have hupgraded : Unasked service t (t.upgraded h) :=
        (Unasked.encrypt t h).of_same rfl rfl
      exact .inl hupgraded

/-- With one signal the authenticator is asked once or not at all. -/
theorem Proceeds.credits (hkeeps : service.Keeps fun tx _ => tx.peer.credentials)
    (hawaits : ∀ step reader, t.phase = .response step reader → t.transaction.MayAuthenticate)
    (hproceeds : Proceeds service Peer.credentials t after) : Credits service t after := by
  rcases hproceeds.unasked hkeeps hawaits with hunasked |
    ⟨told, htold, htransaction, hworld, hmay, hexchanged⟩
  · exact hunasked.credits
  · have hread := htold.questions_eq
    cases hexchanged.credits hkeeps hmay with
    | unasked hquestions husername hpassword hencrypted =>
        rw [htransaction] at husername hpassword hencrypted
        exact .unasked (hquestions.trans hread) husername hpassword hencrypted
    | refused q hasks hrefusal hquestions hcredentials =>
        rw [hread] at hquestions
        rw [htransaction] at hcredentials
        exact .refused q (hasks.of_same htransaction hworld) hrefusal hquestions hcredentials
    | accepted q hasks hrefusal hquestions hcredentials =>
        rw [hread] at hquestions
        exact .accepted q (hasks.of_same htransaction hworld) hrefusal hquestions hcredentials

/-- Who the client is goes on to follow from the questions. -/
theorem Credits.vouched (hcredits : Credits service t after)
    (hvouched : VouchedAt service t.transaction t.journal) :
    VouchedAt service after.transaction after.journal := by
  rw [VouchedAt] at hvouched ⊢
  cases hcredits with
  | unasked hquestions husername hpassword hencrypted =>
      rw [hquestions, Peer.credentials, husername, hpassword]
      exact hvouched.encrypt hencrypted
  | refused q hasks hrefusal hquestions hcredentials =>
      rw [hquestions, hcredentials]
      exact hvouched.refuse hasks.may.stranger hrefusal
  | accepted q hasks hrefusal hquestions hcredentials =>
      obtain ⟨hmay, authenticator, hauthenticator, -⟩ := hasks
      obtain ⟨username, password, refusal⟩ := q
      cases hrefusal
      rw [hquestions, hcredentials]
      refine .known username password ?_ (hvouched.nobody hmay.stranger).2
      rw [hauthenticator, Option.isSome_some]

/-- A response is waited for where the authenticator may be asked. -/
theorem Proceeds.awaits (hawaits : ∀ step reader, t.phase = .response step reader →
      t.transaction.MayAuthenticate)
    (hproceeds : Proceeds service Peer.credentials t after) {step : AuthStep} {reader : LineReader}
    (hphase : after.phase = .response step reader) : after.transaction.MayAuthenticate := by
  cases hproceeds with
  | still htransaction hjournal hgoes =>
      obtain ⟨earlier, hbefore⟩ := hgoes.response step reader hphase
      rw [htransaction]
      exact hawaits step earlier hbefore
  | on htalking hstays hnext =>
      rcases hnext with ⟨reader', h⟩ | ⟨d, h⟩ | ⟨h, -⟩
      · cases h.symm.trans hphase
      · cases h.symm.trans hphase
      · cases h.symm.trans hphase
  | exchanged hstays htransaction hworld hbefore hexchanged =>
      have hmay : t.transaction.MayAuthenticate := by
        rcases hbefore with ⟨step', reader', hbefore⟩ | ⟨-, hmay⟩
        · exact hawaits step' reader' hbefore
        · exact hmay
      cases hexchanged with
      | challenged next =>
          rw [challenge_transaction, htransaction]
          exact hmay
      | refused | rejected | accepted => simp at hphase
  | begun h hopening hbegun =>
      cases hbegun with
      | refused mid r hrun => cases close_phase.symm.trans hphase
      | greeted mid hrun => simp at hphase
  | upgraded h hbefore => simp [Turn.upgraded] at hphase
  | left | failed => cases close_phase.symm.trans hphase

theorem Unasked.stages (hunasked : Unasked service t after)
    (hvouched : VouchedAt service t.transaction t.journal)
    (hstages : ∀ stage, EachStart stage (VouchedAt service) t.journal) (stage : Stage) :
    EachStart stage (VouchedAt service) after.journal := by
  obtain ⟨newer, hnewer, hscript⟩ := hunasked.journal
  have hafter : Vouched service (questions t.journal) after.transaction.peer.credentials := by
    rw [Peer.credentials, hunasked.username, hunasked.password]
    exact Vouched.encrypt hvouched hunasked.encrypted
  rw [hnewer]
  exact Script.vouched hafter hstages hscript stage

theorem Proceeds.stages (hkeeps : service.Keeps fun tx _ => tx.peer.credentials)
    (hawaits : ∀ step reader, t.phase = .response step reader → t.transaction.MayAuthenticate)
    (hvouched : VouchedAt service t.transaction t.journal)
    (hstages : ∀ stage, EachStart stage (VouchedAt service) t.journal)
    (hproceeds : Proceeds service Peer.credentials t after) (stage : Stage) :
    EachStart stage (VouchedAt service) after.journal := by
  rcases hproceeds.unasked hkeeps hawaits with hunasked | ⟨told, htold, -, -, -, hexchanged⟩
  · exact hunasked.stages hvouched hstages stage
  · exact hexchanged.eachStart (htold.stages hvouched hstages stage)

end Credits

/-- What is known about credentials in every state of a connection. -/
structure Attested (service : Service W) (t : Turn W) : Prop where
  vouched : VouchedAt service t.transaction t.journal
  stages : ∀ stage, EachStart stage (VouchedAt service) t.journal
  awaits : ∀ step reader, t.phase = .response step reader → t.transaction.MayAuthenticate

/-- With a signal the authenticator was asked about a user name and a password, where it may be
asked, and let them pass. -/
structure Grants (service : Service W) (t after : Turn W) (username password : String) : Prop where
  asks : Asks service t ⟨username, password, none⟩
  asked : questions after.journal = ⟨username, password, none⟩ :: questions t.journal

/-- Credentials that have been granted and not changed since. -/
def Granted (service : Service W) (start : Turn W) (signals : List Signal)
    (username password : String) : Prop :=
  ∃ front signal, front ++ [signal] <+: signals ∧
    Grants service (start.heedAll service front) (start.heedAll service (front ++ [signal]))
      username password ∧
    ∀ between, front ++ [signal] <+: between → between <+: signals →
      (start.heedAll service between).transaction.peer.credentials =
        ⟨some username, some password, true⟩

/-- What is known about the credentials of a client behind some signals. -/
structure Provenance (service : Service W) (start : Turn W) (signals : List Signal) (t : Turn W) :
    Prop where
  attested : Attested service t
  /-- Nobody was asked about before the first signal. -/
  first : questions start.journal = []
  /-- The authenticator let them pass, and they have been the same ever since. -/
  origin : ∀ username, t.transaction.peer.username = some username →
    ∃ password, Granted service start signals username password
  /-- With the next signal the authenticator is asked where it may be, or not at all, and nothing
  but its assent changes them. -/
  next : ∀ signal, Credits service t (t.heed service signal)
  /-- An exchange begins without credentials, and ends without them if there is no assent. -/
  exchange : t.transaction.MayAuthenticate →
    t.transaction.peer.credentials = ⟨none, none, true⟩ ∧
      ∀ signal,
        ((t.heed service signal).transaction.peer.username = none ∧
          (t.heed service signal).transaction.peer.password = none) ∨
        ∃ username password, Grants service t (t.heed service signal) username password

section Run

variable {service : Service W} {t after : Turn W}

theorem Attested.move {signal : Signal} (hsees : service.Sees Peer.credentials)
    (hkeeps : service.Keeps fun tx _ => tx.peer.credentials) (hattested : Attested service t)
    (hmove : Move service t signal after) : Attested service after := by
  have hproceeds := hmove.proceeds hsees
  constructor
  · exact (hproceeds.credits hkeeps hattested.awaits).vouched hattested.vouched
  · exact hproceeds.stages hkeeps hattested.awaits hattested.vouched hattested.stages
  · exact fun step reader hphase => hproceeds.awaits hattested.awaits hphase

theorem Attested.credits (hsees : service.Sees Peer.credentials)
    (hkeeps : service.Keeps fun tx _ => tx.peer.credentials) (hattested : Attested service t)
    (signal : Signal) : Credits service t (t.heed service signal) :=
  ((heed_move service t signal).proceeds hsees).credits hkeeps hattested.awaits

/-- A client that may authenticate is nobody yet. -/
theorem Attested.nobody (hattested : Attested service t)
    (hmay : t.transaction.MayAuthenticate) :
    t.transaction.peer.credentials = ⟨none, none, true⟩ := by
  have hpassword : t.transaction.peer.password = none :=
    (Vouched.nobody hattested.vouched hmay.stranger).1
  rw [Peer.credentials, hmay.stranger, hmay.encrypted, hpassword]

theorem Unasked.attested (hunasked : Unasked service t after) (hattested : Attested service t)
    (hphase : ∀ step reader, after.phase ≠ .response step reader) : Attested service after where
  vouched := hunasked.credits.vouched hattested.vouched
  stages := hunasked.stages hattested.vouched hattested.stages
  awaits step reader h := absurd h (hphase step reader)

end Run

variable (service : Service W) (id : TransactionId) (serverHostname : String)
  (localAddr remoteAddr : Address.Endpoint) (world : W)

/-- A connection that has just been admitted. -/
def admitted (id : TransactionId) (serverHostname : String)
    (localAddr remoteAddr : Address.Endpoint) (world : W) : Turn W :=
  { transaction := .start id serverHostname localAddr remoteAddr, phase := .opening, world }

theorem start_unasked (hkeeps : service.Keeps fun tx _ => tx.peer.credentials) :
    Unasked service (admitted id serverHostname localAddr remoteAddr world)
      (start service (.start id serverHostname localAddr remoteAddr) world) := by
  rw [start]
  split
  · exact .refl _
  · exact (Unasked.refl _).begun hkeeps (begin_begun service _)

theorem start_attested (hkeeps : service.Keeps fun tx _ => tx.peer.credentials) :
    Attested service (start service (.start id serverHostname localAddr remoteAddr) world) := by
  have hadmitted : Attested service (admitted id serverHostname localAddr remoteAddr world) :=
    ⟨.stranger false (List.forall_mem_nil _), fun _ => trivial, nofun⟩
  have hunasked := start_unasked service id serverHostname localAddr remoteAddr world hkeeps
  refine hunasked.attested hadmitted ?_
  intro step reader hphase
  rw [start] at hphase
  split at hphase
  · cases hphase
  · have hbegun :=
      begin_begun service (admitted id serverHostname localAddr remoteAddr world)
    rw [admitted] at hbegun
    generalize Turn.begin service _ = after at hbegun hphase
    cases hbegun with
    | refused mid r hrun => cases close_phase.symm.trans hphase
    | greeted mid hrun => simp at hphase

section Origin

variable {service} {start : Turn W} {signals : List Signal} {username password : String}

theorem Granted.credentials (hgranted : Granted service start signals username password) :
    (start.heedAll service signals).transaction.peer.credentials =
      ⟨some username, some password, true⟩ := by
  obtain ⟨front, signal, hprefix, -, hbetween⟩ := hgranted
  exact hbetween signals hprefix (List.prefix_refl signals)

theorem Granted.concat (hgranted : Granted service start signals username password)
    {signal : Signal}
    (hsame : (start.heedAll service (signals ++ [signal])).transaction.peer.credentials =
      ⟨some username, some password, true⟩) :
    Granted service start (signals ++ [signal]) username password := by
  obtain ⟨front, grant, hprefix, hgrants, hbetween⟩ := hgranted
  refine ⟨front, grant, hprefix.trans (List.prefix_append _ _), hgrants, ?_⟩
  intro between hfront hwithin
  rcases List.prefix_concat_iff.mp hwithin with rfl | hearlier
  · exact hsame
  · exact hbetween between hfront hearlier

theorem Grants.granted {signal : Signal}
    (hgrants : Grants service (start.heedAll service signals)
      (start.heedAll service (signals ++ [signal])) username password)
    (hcredentials : (start.heedAll service (signals ++ [signal])).transaction.peer.credentials =
      ⟨some username, some password, true⟩) :
    Granted service start (signals ++ [signal]) username password := by
  refine ⟨signals, signal, List.prefix_refl _, hgrants, ?_⟩
  intro between hfront hwithin
  rw [hwithin.eq_of_length_le hfront.length_le]
  exact hcredentials

/-- Credentials that a client has were granted at some time. -/
theorem granted_of_username (hstart : start.transaction.peer.username = none)
    (hcredits : ∀ signals signal, Credits service (start.heedAll service signals)
      (start.heedAll service (signals ++ [signal])))
    (signals : List Signal)
    (husername : (start.heedAll service signals).transaction.peer.username = some username) :
    ∃ password, Granted service start signals username password := by
  -- The last signal has changed the credentials or left them as they were.
  induction signals using List.reverseRecOn with
  | nil => cases hstart.symm.trans husername
  | append_singleton signals signal ih =>
      cases hcredits signals signal with
      | unasked hquestions hname hpassword hencrypted =>
          obtain ⟨password, hgranted⟩ := ih (hname.symm.trans husername)
          have hbefore := hgranted.credentials
          refine ⟨password, hgranted.concat ?_⟩
          rw [Peer.credentials, hname, hpassword,
            hencrypted (congrArg Credentials.encrypted hbefore)]
          exact congrArg (fun c => Credentials.mk c.username c.password true) hbefore
      | refused q hasks hrefusal hquestions hcredentials =>
          have hname := congrArg Credentials.username hcredentials
          obtain ⟨password, hgranted⟩ := ih (hname.symm.trans husername)
          exact ⟨password, hgranted.concat (hcredentials.trans hgranted.credentials)⟩
      | accepted q hasks hrefusal hquestions hcredentials =>
          obtain ⟨name, password, refusal⟩ := q
          cases hrefusal
          have hname : some name = some username :=
            (congrArg Credentials.username hcredentials).symm.trans husername
          cases hname
          have hgrants : Grants service (start.heedAll service signals)
              (start.heedAll service (signals ++ [signal])) username password :=
            ⟨hasks, hquestions⟩
          exact ⟨password, hgrants.granted hcredentials⟩

end Origin

/-- Whatever arrives on a connection to a service on which nobody may speak for the client and no
checker and not the authenticator changes credentials: a client has a user name and a password
exactly if the authenticator was asked about just these and let them pass, on the encrypted
connection; they have been the same since then, and the connection is still encrypted.  The
authenticator is never asked but on encrypted connections, about clients that have greeted, have no
name and have begun no message, and so it lets at most one pass.  However else an exchange ends, the
client has neither a name nor a password. -/
theorem run_provenance (hxclient : service.settings.enableXclient = false)
    (hkeeps : service.Keeps fun tx _ => tx.peer.credentials) (inputs : List Input) :
    let start := start service (.start id serverHostname localAddr remoteAddr) world
    Provenance service start (inputs.flatMap Input.signals) (start.run service inputs) := by
  intro start
  have hsees := Service.sees_credentials hxclient hkeeps
  have hattested : ∀ signals, Attested service (start.heedAll service signals) := fun signals =>
    heedAll_induction (fun before signal after hmove hbefore => hbefore.move hsees hkeeps hmove)
      signals (start_attested service id serverHostname localAddr remoteAddr world hkeeps)
  have hcredits : ∀ signals signal, Credits service (start.heedAll service signals)
      ((start.heedAll service signals).heed service signal) := fun signals signal =>
    (hattested signals).credits hsees hkeeps signal
  have hstart := start_unasked service id serverHostname localAddr remoteAddr world hkeeps
  rw [run_eq_heedAll]
  refine ⟨hattested _, hstart.questions_eq, fun username husername => ?_, hcredits _,
    fun hmay => ?_⟩
  · refine granted_of_username hstart.username (fun signals signal => ?_) _ husername
    rw [heedAll_concat]
    exact hcredits signals signal
  · have hcredentials := (hattested _).nobody hmay
    refine ⟨hcredentials, fun signal => ?_⟩
    cases hcredits (inputs.flatMap Input.signals) signal with
    | unasked hquestions hname hpassword hencrypted =>
        exact .inl ⟨hname.trans hmay.stranger,
          hpassword.trans (congrArg Credentials.password hcredentials)⟩
    | refused q hasks hrefusal hquestions hsame =>
        have hafter := hsame.trans hcredentials
        exact .inl ⟨congrArg Credentials.username hafter, congrArg Credentials.password hafter⟩
    | accepted q hasks hrefusal hquestions hknown =>
        obtain ⟨name, password, refusal⟩ := q
        cases hrefusal
        exact .inr ⟨name, password, hasks, hquestions⟩

end Turn

namespace Sample

/-- How the client and the server come to terms. -/
def agreement : Turn.Handshake :=
  { secured := false, info := ⟨"TLSv1.3", "TLS13_AES_256_GCM_SHA384"⟩ }

def members : Service Office :=
  { hostname := "mx"
    settings := { implicitTls := true }
    offersTls := true
    authenticator := some (Users.authenticator [("u", "p")]) }

def joined : Turn Office :=
  Turn.start members (.start ⟨1⟩ "mx" place place) office

def login : List UInt8 :=
  Text.Utf8.encode "EHLO c\r\nAUTH LOGIN dQ==\r\n*\r\nAUTH PLAIN AHUAcA==\r\n"

theorem members_keeps {A : Type u} (view : Transaction → A) :
    members.Keeps fun tx _ => view tx where
  stages stage checker hchecker := by
    cases stage with
    | connection | helo | sender | recipient candidate | data | handler | close => cases hchecker
  authenticator authenticator hauthenticator username password tx office := by
    cases hauthenticator
    rfl

end Sample

namespace Turn

theorem run_provenance_login :
    let inputs := [.handshake (some Sample.agreement), .bytes Sample.login]
    let t := Sample.joined.run Sample.members inputs
    t.transaction.peer.username = some "u" ∧
      Provenance Sample.members Sample.joined (inputs.flatMap Input.signals) t := by
  intro inputs t
  refine ⟨by decide +kernel, ?_⟩
  exact run_provenance Sample.members ⟨1⟩ "mx" Sample.place Sample.place Sample.office rfl
    (Sample.members_keeps _) inputs

end Turn
end MailIntake
