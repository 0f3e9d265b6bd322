import MailIntake.Office
import MailIntake.Proofs.Session.Journal
import MailIntake.Proofs.Text.Numeral
import MailIntake.Text.Unprintable
/-!
What a connection does to a spool.  A message that the handler stage takes over is written under the
identifier of its connection; nothing else is written, and no other name is touched
(`run_delivers`).  Different identifiers make different names (`fileName_eq_iff`).
-/
namespace MailIntake

universe u

variable {W : Type u}

namespace Text

theorem rangeBound_toDigits (value : Nat) : rangeBound (Nat.toDigits 16 value) = value :=
  foldl_hexDigit?_toDigits value

theorem rangeBound_zeros (count : Nat) (digits : List Char) :
    rangeBound (List.replicate count '0' ++ digits) = rangeBound digits := by
  induction count with
  | zero => rfl
  | succ count ih => exact ih

end Text

theorem TransactionId.render_eq_iff {id other : TransactionId} :
    id.render = other.render ↔ id = other := by
  constructor
  · intro hrender
    have hdigits := congrArg (fun text => Text.rangeBound text.toList) hrender
    simp only [render, String.toList_ofList, Text.rangeBound_zeros,
      Text.rangeBound_toDigits] at hdigits
    have hbits : id.bits = other.bits := BitVec.eq_of_toNat_eq hdigits
    cases id
    cases other
    cases hbits
    rfl
  · rintro rfl
    rfl

/-- Messages lie under different names if and only if their connections have different
identifiers. -/
theorem Office.fileName_eq_iff {tx other : Transaction} :
    fileName tx = fileName other ↔ tx.shared.id = other.shared.id := by
  rw [fileName, fileName, ← TransactionId.render_eq_iff]
  constructor
  · intro hname
    have hlists := congrArg String.toList hname
    rw [String.toList_append, String.toList_append] at hlists
    exact String.toList_inj.mp (List.append_cancel_right hlists)
  · intro hrender
    rw [hrender]

/-- The messages that the handler stage took over, the latest first: those that none of its checkers
refused. -/
def takenOver : List Event → List Transaction
  | [] => []
  | .stage .handler tx :: older => tx :: takenOver older
  | .checked .handler _ (some _) :: older => (takenOver older).tail
  | _ :: older => takenOver older

theorem takenOver_cons_of_not {e : Event} (he : ¬ e.OfStage .handler) (older : List Event) :
    takenOver (e :: older) = takenOver older := by
  cases e with
  | stage stage tx =>
      cases stage with
      | handler => exact absurd (.inl ⟨tx, rfl⟩) he
      | connection | helo | sender | recipient candidate | data | close => rfl
  | checked stage place answer =>
      cases stage with
      | handler => exact absurd (.inr ⟨place, answer, rfl⟩) he
      | connection | helo | sender | recipient candidate | data | close => rfl
  | command line => rfl
  | overlong => rfl
  | authenticated username password refusal => rfl
  | replied reply => rfl

def Reading.takenOver : Reading .handler (List Transaction) where
  read := MailIntake.takenOver
  skips _ older he := takenOver_cons_of_not he older

theorem Verdicts.takenOver_none {refusal : Option Refusal} {checks : List Event}
    (hverdicts : Verdicts .handler refusal checks) (hpass : refusal = none)
    (older : List Event) : takenOver (checks ++ older) = takenOver older := by
  induction hverdicts with
  | nil => rfl
  | pass _ ih => exact ih rfl
  | refuse _ r _ => cases hpass

theorem Verdicts.takenOver_some {r : Refusal} {checks : List Event}
    (hverdicts : Verdicts .handler (some r) checks) (older : List Event) :
    takenOver (checks ++ older) = (takenOver older).tail := by
  cases hverdicts with
  | refuse earlier _ =>
      rw [← earlier.takenOver_none rfl older]
      rfl

/-- The files of a directory when messages, the latest first, have been written into it. -/
def written (messages : List Transaction) (files : Store (List UInt8)) : Store (List UInt8) :=
  messages.foldr (fun tx files => files.insert (Office.fileName tx) tx.envelope.body) files

theorem written_append (newer older : List Transaction) (files : Store (List UInt8)) :
    written (newer ++ older) files = written newer (written older files) :=
  List.foldr_append

/-- A service that takes messages over by writing them into the spool of an office in the world, and
that changes neither the spool nor an identifier otherwise. -/
structure Service.Spools (service : Service W) (get : W → Office) (put : Office → W → W) :
    Prop where
  handlers : service.pipelines.handlers = [Checker.onPart get put Office.deliver]
  get_put : ∀ office world, get (put office world) = office
  beside : service.KeepsBeside .handler fun tx world => (tx.shared.id, (get world).spool)

namespace Turn

/-- What a connection does to a spool between two turns: it takes over messages of its own, counts
them, and writes them. -/
structure Delivers (get : W → Office) (before after : Turn W) (newer : List Transaction) :
    Prop where
  taken : takenOver after.journal = newer ++ takenOver before.journal
  own : ∀ tx ∈ newer, tx.shared.id = before.transaction.shared.id
  id : after.transaction.shared.id = before.transaction.shared.id
  messages : after.tally.messages = before.tally.messages + newer.length
  spool : ∀ files, (get before.world).spool = some (.directory files) →
    (get after.world).spool = some (.directory (written newer files))

variable {service : Service W} {get : W → Office} {put : Office → W → W} {t after : Turn W}

def spoolView (get : W → Office) (id : TransactionId) (world : W) :
    TransactionId × Option Spool :=
  (id, (get world).spool)

theorem Delivers.of_aspect {before : Turn W}
    (haspect : after.aspect Reading.takenOver (spoolView get) =
      before.aspect Reading.takenOver (spoolView get)) :
    Delivers get before after [] := by
  simp only [aspect, spoolView, Prod.mk.injEq] at haspect
  obtain ⟨htaken, ⟨hid, hspool⟩, hmessages⟩ := haspect
  refine ⟨htaken, List.forall_mem_nil _, hid, hmessages, ?_⟩
  intro files hfiles
  rw [hspool, hfiles]
  rfl

theorem Delivers.trans {before : Turn W} {older newer : List Transaction}
    (hfirst : Delivers get before t older) (hsecond : Delivers get t after newer) :
    Delivers get before after (newer ++ older) := by
  constructor
  · rw [hsecond.taken, hfirst.taken, List.append_assoc]
  · intro tx htx
    rcases List.mem_append.mp htx with hnew | hold
    · rw [hsecond.own tx hnew, hfirst.id]
    · exact hfirst.own tx hold
  · rw [hsecond.id, hfirst.id]
  · rw [hsecond.messages, hfirst.messages, List.length_append]
    omega
  · intro files hfiles
    rw [written_append]
    exact hsecond.spool _ (hfirst.spool files hfiles)

theorem check_singleton (stage : Stage) (place : Nat) (checker : Checker W) (t : Turn W) :
    check stage place [checker] t =
      (t.asked stage place checker, (checker t.transaction t.world).refusal) := by
  cases hrefusal : (checker t.transaction t.world).refusal with
  | none =>
      rw [check_cons_none stage place [] hrefusal]
      rfl
  | some r => rw [check_cons_some stage place [] hrefusal]

/-- Into a directory every message can be written. -/
theorem deliver_directory (tx : Transaction) {office : Office} {files : Store (List UInt8)}
    (hspool : office.spool = some (.directory files)) :
    Office.deliver tx office =
      Checker.pass tx { office with spool := some (.directory (written [tx] files)) } := by
  rw [Office.deliver, hspool]
  rfl

/-- The handler stage of a service that spools comes down to one delivery. -/
theorem deliver_of_runStage (hspools : service.Spools get put) {refusal : Option Refusal}
    (hrun : t.runStage service .handler = (after, refusal)) :
    after.transaction = t.transaction ∧
      get after.world = (Office.deliver t.transaction (get t.world)).world ∧
        refusal = (Office.deliver t.transaction (get t.world)).refusal := by
  rw [runStage, Pipelines.checkers, hspools.handlers, check_singleton, Prod.mk.injEq] at hrun
  obtain ⟨rfl, rfl⟩ := hrun
  refine ⟨?_, ?_, rfl⟩
  · exact Office.deliver_transaction t.transaction (get t.world)
  · exact hspools.get_put _ _

/-- The message at hand is taken over. -/
theorem Delivers.handler (hspools : service.Spools get put)
    (hrun : t.runStage service .handler = (after, none)) :
    Delivers get t after.countMessage [t.transaction] := by
  obtain ⟨checks, hchecks, hjournal⟩ := journal_of_runStage hrun
  obtain ⟨htransaction, hworld, -⟩ := deliver_of_runStage hspools hrun
  constructor
  · rw [countMessage_journal, hjournal, hchecks.takenOver_none rfl]
    rfl
  · intro tx htx
    rw [List.mem_singleton.mp htx]
  · rw [countMessage_transaction, htransaction]
  · rw [countMessage_messages, (leaves_of_runStage hrun).tally]
    rfl
  · intro files hfiles
    rw [countMessage_world, hworld, deliver_directory t.transaction hfiles]
    rfl

/-- The message at hand is not taken over. -/
theorem Delivers.handlerRefused (hspools : service.Spools get put) {r : Refusal}
    (hrun : t.runStage service .handler = (after, some r)) : Delivers get t after [] := by
  obtain ⟨checks, hchecks, hjournal⟩ := journal_of_runStage hrun
  obtain ⟨htransaction, -, hrefusal⟩ := deliver_of_runStage hspools hrun
  constructor
  · rw [hjournal, hchecks.takenOver_some]
    rfl
  · exact List.forall_mem_nil _
  · rw [htransaction]
  · rw [(leaves_of_runStage hrun).tally]
    rfl
  · intro files hfiles
    rw [deliver_directory t.transaction hfiles] at hrefusal
    cases hrefusal

/-- The end of a body. -/
theorem Ended.delivers (hspools : service.Spools get put) {outcome : BodyOutcome}
    (hended : Ended service t outcome after) : ∃ newer, Delivers get t after newer := by
  have hlooked : ∀ {body : List UInt8} {judged : Turn W} {refusal : Option Refusal},
      (t.hold body).runStage service .data = (judged, refusal) →
        Delivers get t judged [] := by
    intro body judged refusal hdata
    refine .of_aspect ?_
    rw [aspect_of_runStage Reading.takenOver (spoolView get) hspools.beside (by simp) hdata]
    simp [hold]
  cases hended with
  | tooBig => exact ⟨[], .of_aspect (by simp)⟩
  | bodyRefused body mid r hdata =>
      exact ⟨[], (hlooked hdata).trans (.of_aspect (by simp))⟩
  | messageRefused body judged mid r hdata hhandler =>
      have hrefused := (hlooked hdata).trans (.handlerRefused hspools hhandler)
      exact ⟨[], hrefused.trans (.of_aspect (by simp))⟩
  | messageAccepted body judged mid hdata hhandler =>
      have haccepted := (hlooked hdata).trans (.handler hspools hhandler)
      exact ⟨[judged.transaction], haccepted.trans (.of_aspect (by simp))⟩

theorem Move.delivers (hspools : service.Spools get put) {signal : Signal}
    (hmove : Move service t signal after) : ∃ newer, Delivers get t after newer := by
  rcases hmove.aspect Reading.takenOver (spoolView get) (.inr rfl) hspools.beside with
    hsame | ⟨b, outcome, -, -, hended⟩
  · exact ⟨[], .of_aspect hsame⟩
  · obtain ⟨newer, hdelivers⟩ := hended.delivers hspools
    have hread : Delivers get t (t.countRead 1) [] := .of_aspect rfl
    exact ⟨newer ++ [], hread.trans hdelivers⟩

/-- Whatever arrives, messages are written as they are taken over, and nothing else is. -/
theorem run_delivers (hspools : service.Spools get put) (t : Turn W) (inputs : List Input) :
    ∃ newer, Delivers get t (t.run service inputs) newer := by
  refine run_induction (motive := fun after => ∃ newer, Delivers get t after newer) ?_ inputs
    ⟨[], .of_aspect rfl⟩
  rintro before signal after hmove ⟨older, holder⟩
  obtain ⟨newer, hnewer⟩ := hmove.delivers hspools
  exact ⟨newer ++ older, holder.trans hnewer⟩

end Turn
end MailIntake
