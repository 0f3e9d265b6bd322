import MailIntake.Proofs.Session.Accounts
import MailIntake.Proofs.Session.Course
import MailIntake.Proofs.Session.SentLine
/-!
Connections that are cut short.  Where the deadline of a read passes, or the client stops sending in
the middle of what is read, the connection ends: a client that owes a line may be told so, and
nothing else happens but the last stage, on the state as it was.  What has arrived of a line or a
body is counted and otherwise forgotten (`run_cutShort`).
-/
namespace MailIntake

universe u

variable {W : Type u}

/-- Where a connection is cut short, and what the client is told. -/
inductive CutShort : Phase → Input → Option Reply → Prop
  | commandExpired (reader : LineReader) :
      CutShort (.command reader) .expired (some ⟨421, "Connection timed out."⟩)
  | responseExpired (step : AuthStep) (reader : LineReader) :
      CutShort (.response step reader) .expired (some ⟨421, "Connection timed out."⟩)
  | bodyExpired (decoder : DotDecoder) : CutShort (.body decoder) .expired none
  | handshakeExpired : CutShort .handshake .expired none
  | openingExpired : CutShort .opening .expired none
  | commandEnded (reader : LineReader) : CutShort (.command reader) .ended none
  | responseEnded (step : AuthStep) (reader : LineReader) :
      CutShort (.response step reader) .ended none
  | bodyEnded (decoder : DotDecoder) : CutShort (.body decoder) .ended none

/-- Bytes that do not end what is read: a line goes on, or a body does. -/
def Phase.Lasts : Phase → List UInt8 → Prop
  | .command _, piece | .response _ _, piece => LineReader.byteFeed ∉ piece
  | .body decoder, piece => (decoder.feed piece).1 = none
  | .opening, piece | .handshake, piece | .closed, piece => piece = []

instance (phase : Phase) (piece : List UInt8) : Decidable (phase.Lasts piece) :=
  match phase with
  | .command _ | .response _ _ => inferInstanceAs (Decidable (_ ∉ piece))
  | .body decoder => inferInstanceAs (Decidable ((decoder.feed piece).1 = none))
  | .opening | .handshake | .closed => inferInstanceAs (Decidable (piece = []))

/-- A connection has ended with no more than its last stage, which ran once, and what the client was
told.  No command was taken up or carried out, no message was looked at or counted, and nothing will
happen any more. -/
structure BreaksOff (service : Service W) (told : Option Reply) (read : Nat)
    (before after : Turn W) : Prop where
  phase : after.phase = .closed
  journal : ∃ checks refusal, Ran .close (service.pipelines.checkers .close) refusal checks ∧
    after.journal =
      checks ++ .stage .close before.transaction :: (told.toList.map .replied ++ before.journal)
  once : after.journal.countP (Event.starts .close) = 1
  replies : after.replies = before.replies ++ told.toList
  commands : after.commands = before.commands
  tally : after.tally = before.tally.add ⟨read, sizes told.toList, 0⟩
  karma : service.KeepsAt (fun tx _ => tx.karma) .close →
    after.transaction.karma = before.transaction.karma
  silent : ∀ more, after.run service more = after

section NotOfStage

variable {service : Service W}

/-- A stage writes down nothing about another one. -/
theorem Verdicts.not_ofStage {stage other : Stage} (hother : stage ≠ other)
    {refusal : Option Refusal} {checks : List Event} (hverdicts : Verdicts stage refusal checks) :
    ∀ e ∈ checks, ¬ e.OfStage other := by
  intro e he
  obtain ⟨place, answer, rfl⟩ := hverdicts.eq_checked he
  simp [Event.OfStage, hother]

theorem not_ofStage_of_ran {stage other : Stage} (hother : stage ≠ other)
    {refusal : Option Refusal} {checks older : List Event} (tx : Transaction)
    (hran : Ran stage (service.pipelines.checkers stage) refusal checks)
    (holder : ∀ e ∈ older, ¬ e.OfStage other) :
    ∀ e ∈ checks ++ .stage stage tx :: older, ¬ e.OfStage other := by
  refine List.forall_mem_append.mpr ⟨hran.verdicts.not_ofStage hother, ?_⟩
  exact List.forall_mem_cons.mpr ⟨by simp [Event.OfStage, hother], holder⟩

theorem Script.not_ofStage_close {newer : List Event}
    (hscript : Script service Event.Between newer) : ∀ e ∈ newer, ¬ e.OfStage .close := by
  induction hscript with
  | nil => exact List.forall_mem_nil _
  | other e hother _ _ ih => exact List.forall_mem_cons.mpr ⟨hother .close, ih⟩
  | run stage tx refusal hstart hran _ ih => exact not_ofStage_of_ran hstart.2 tx hran ih

theorem Entered.not_ofStage_close {refusal : Option Refusal} {journal : List Event}
    (hentered : Entered service refusal journal) : ∀ e ∈ journal, ¬ e.OfStage .close := by
  obtain ⟨checks, tx, rfl, hran⟩ := hentered
  exact not_ofStage_of_ran (by simp) tx hran (List.forall_mem_nil _)

/-- The last stage is not in a journal before it runs. -/
theorem Unfinished.not_ofStage_close {entered : Bool} {journal : List Event}
    (hunfinished : Unfinished service entered journal) : ∀ e ∈ journal, ¬ e.OfStage .close := by
  cases hunfinished with
  | unopened => exact List.forall_mem_nil _
  | turnedAway r hentered =>
      exact List.forall_mem_cons.mpr ⟨by simp [Event.OfStage], hentered.not_ofStage_close⟩
  | served hserved =>
      obtain ⟨newer, older, rfl, hscript, hentered⟩ := hserved
      exact List.forall_mem_append.mpr ⟨hscript.not_ofStage_close, hentered.not_ofStage_close⟩

end NotOfStage

namespace Turn

variable {service : Service W} {t after : Turn W}

/-- Writes a reply if there is one to write. -/
def tell (told : Option Reply) (t : Turn W) : Turn W :=
  match told with
  | none => t
  | some r => t.reply r.code r.message

/-- A connection that waits for its opening handshake, or is past it and in its course. -/
def OnCourse (service : Service W) (t : Turn W) : Prop :=
  t.phase = .opening ∧ t.journal = [] ∨ ∃ entered, CourseSoFar service t entered

theorem Proceeds.onCourse (hproceeds : Proceeds service (fun _ => ()) t after)
    (hcourse : OnCourse service t) : OnCourse service after := by
  rcases hcourse with ⟨hphase, hjournal⟩ | ⟨entered, hcourses⟩
  · cases hproceeds with
    | still htransaction hsame hnext =>
        exact .inl ⟨hnext.opening.mpr hphase, hsame.trans hjournal⟩
    | on htalking | left htalking => exact absurd hphase htalking.1
    | exchanged hstays htransaction hworld hexchange => simp [hphase] at hexchange
    | failed _ hpeer hsame =>
        exact .inr ⟨false, courseSoFar_close ((hsame.trans hjournal) ▸ .unopened)⟩
    | begun h _ hbegun => exact .inr ⟨true, Begun.courseSoFar (t := t.encrypt h) hjournal hbegun⟩
    | upgraded h hhandshake => simp [hphase] at hhandshake
  · exact .inr ⟨entered, hproceeds.courseSoFar hcourses⟩

theorem run_onCourse (service : Service W) (tx : Transaction) (world : W) (inputs : List Input) :
    OnCourse service ((start service tx world).run service inputs) := by
  refine run_induction (motive := OnCourse service)
    (fun _ _ _ hmove h => (hmove.proceeds (sees_nothing service)).onCourse h) inputs ?_
  rw [start]
  split
  · exact .inl ⟨rfl, rfl⟩
  · exact .inr ⟨true, (begin_begun service _).courseSoFar rfl⟩

/-- As long as a connection goes on, its last stage has not run. -/
theorem OnCourse.not_ofStage_close (hcourse : OnCourse service t) (hphase : t.phase ≠ .closed) :
    ∀ e ∈ t.journal, ¬ e.OfStage .close := by
  rcases hcourse with ⟨-, hjournal⟩ | ⟨entered, hcourses⟩
  · rw [hjournal]
    exact List.forall_mem_nil _
  · cases hcourses with
    | talking htalking hserved => exact (Unfinished.served hserved).not_ofStage_close
    | finished hclosed hcourse => exact absurd hclosed hphase

theorem run_of_closed (hphase : t.phase = .closed) (inputs : List Input) :
    t.run service inputs = t := by
  induction inputs with
  | nil => rfl
  | cons input inputs ih =>
      have hstep : t.step service input = t := step_of_closed hphase input
      exact (congrArg (run service · inputs) hstep).trans ih

/-- A stage is the same however much has been read. -/
theorem check_countRead (stage : Stage) (place : Nat) (checkers : List (Checker W)) (t : Turn W)
    (bytes : Nat) :
    check stage place checkers (t.countRead bytes) =
      ((check stage place checkers t).1.countRead bytes, (check stage place checkers t).2) :=
  check_map (f := fun t => t.countRead bytes) (fun _ => ⟨rfl, rfl⟩) (fun _ _ _ _ => rfl) stage
    place checkers t

theorem close_countRead (service : Service W) (t : Turn W) (bytes : Nat) :
    (t.countRead bytes).close service = (t.close service).countRead bytes := by
  have hcheck := check_countRead .close 0 (service.pipelines.checkers .close)
    (t.note (.stage .close t.transaction)) bytes
  have hrun : (t.countRead bytes).runStage service .close =
      ((t.runStage service .close).1.countRead bytes, (t.runStage service .close).2) := hcheck
  simp only [close, hrun]
  rfl

section Tell

variable (told : Option Reply)

theorem tell_transaction : (t.tell told).transaction = t.transaction := by
  cases told with
  | none => rfl
  | some r => exact reply_transaction t r.code r.message

theorem tell_commands : (t.tell told).commands = t.commands := by
  cases told with
  | none => rfl
  | some r => exact reply_commands t r.code r.message

theorem tell_journal : (t.tell told).journal = told.toList.map .replied ++ t.journal := by
  cases told with
  | none => rfl
  | some r => exact reply_journal t r.code r.message

theorem tell_tally : (t.tell told).tally = t.tally.add ⟨0, sizes told.toList, 0⟩ := by
  cases told with
  | none => rfl
  | some r => simp [tell, reply, Tally.add, sizes, Reply.size]

theorem tell_countRead (bytes : Nat) :
    (t.countRead bytes).tell told = (t.tell told).countRead bytes := by
  cases told with
  | none => rfl
  | some r => simp only [tell, reply, countRead, note]

theorem tell_inPhase (phase : Phase) : (t.inPhase phase).tell told = (t.tell told).inPhase phase := by
  cases told with
  | none => rfl
  | some r => exact reply_inPhase t phase r.code r.message

end Tell

/-- Where a connection is cut short, the client is told what there is to tell, and the last stage
runs. -/
theorem step_cutShort {fault : Input} {told : Option Reply} (hcut : CutShort t.phase fault told) :
    t.step service fault = (t.tell told).close service := by
  generalize hphase : t.phase = phase at hcut
  cases hcut with
  | commandExpired | responseExpired | bodyExpired | handshakeExpired | openingExpired =>
      simp only [step, expire, hphase, tell]
  | commandEnded | responseEnded | bodyEnded => simp only [step, endInput, hphase, tell]

/-- What is read goes on behind bytes that do not end it, and can be cut short as before. -/
theorem receive_of_lasts (service : Service W) {piece : List UInt8} (hlasts : t.phase.Lasts piece) :
    ∃ phase, t.receive service piece = (t.countRead piece.length).inPhase phase ∧
      ∀ fault told, CutShort t.phase fault told → CutShort phase fault told := by
  have hstill : piece = [] → t.receive service piece =
      (t.countRead piece.length).inPhase t.phase := by
    rintro rfl
    rw [receive]
    rfl
  cases piece with
  | nil => exact ⟨t.phase, hstill rfl, fun _ _ h => h⟩
  | cons b rest =>
      rw [receive]
      cases hphase : t.phase with
      | opening | handshake | closed =>
          rw [hphase] at hlasts
          cases hlasts
      | command reader =>
          rw [hphase] at hlasts
          refine ⟨.command (reader.add (b :: rest)), ?_, ?_⟩
          · simp only [advance, hphase, LineReader.feed, LineReader.cutAtFeed_eq_none hlasts]
            rw [receive]
            rfl
          · intro fault told hcut
            cases hcut with
            | commandExpired => exact .commandExpired _
            | commandEnded => exact .commandEnded _
      | response step reader =>
          rw [hphase] at hlasts
          refine ⟨.response step (reader.add (b :: rest)), ?_, ?_⟩
          · simp only [advance, hphase, LineReader.feed, LineReader.cutAtFeed_eq_none hlasts]
            rw [receive]
            rfl
          · intro fault told hcut
            cases hcut with
            | responseExpired => exact .responseExpired _ _
            | responseEnded => exact .responseEnded _ _
      | body decoder =>
          rw [hphase] at hlasts
          cases hfeed : decoder.feed (b :: rest) with
          | mk behind next =>
              have hnone : behind = none := (congrArg Prod.fst hfeed).symm.trans hlasts
              subst hnone
              refine ⟨.body next, ?_, ?_⟩
              · simp only [advance, hphase, hfeed]
                rw [receive]
                rfl
              · intro fault told hcut
                cases hcut with
                | bodyExpired => exact .bodyExpired _
                | bodyEnded => exact .bodyEnded _

section Journal

variable (tx : Transaction) {checks older : List Event} {refusal : Option Refusal}
  (hverdicts : Verdicts .close refusal checks) (told : Option Reply)

include hverdicts

/-- The last stage is in the journal once if it was not there before it ran. -/
theorem countP_starts_close (holder : ∀ e ∈ older, ¬ e.OfStage .close) :
    (checks ++ Event.stage .close tx :: (told.toList.map Event.replied ++ older)).countP
      (Event.starts .close) = 1 := by
  have hchecks : checks.countP (Event.starts .close) = 0 := by
    rw [List.countP_eq_zero]
    intro e he
    obtain ⟨place, answer, rfl⟩ := hverdicts.eq_checked he
    simp [Event.starts]
  have htold : (told.toList.map Event.replied).countP (Event.starts .close) = 0 := by
    cases told with
    | none => rfl
    | some r => rfl
  have hbefore : older.countP (Event.starts .close) = 0 := by
    rw [List.countP_eq_zero]
    intro e he
    simp [Event.starts_of_not (holder e he)]
  rw [List.countP_append, List.countP_cons_of_pos (by simp [Event.starts]), List.countP_append,
    hchecks, htold, hbefore]

/-- The last stage says nothing to the client. -/
theorem filterMap_reply?_close :
    (checks ++ Event.stage .close tx :: (told.toList.map Event.replied ++ older)).reverse.filterMap
        Event.reply? = older.reverse.filterMap Event.reply? ++ told.toList := by
  have hchecks : checks.filterMap Event.reply? = [] := by
    rw [List.filterMap_eq_nil_iff]
    intro e he
    obtain ⟨place, answer, rfl⟩ := hverdicts.eq_checked he
    rfl
  have hstage : (Event.stage .close tx).reply? = none := rfl
  rw [List.filterMap_reverse, List.filterMap_append, hchecks, List.nil_append,
    List.filterMap_cons_none hstage, List.filterMap_append, List.reverse_append,
    List.filterMap_reverse]
  cases told with
  | none => rfl
  | some r => rfl

end Journal

/-- The last stage runs on what a connection has come to. -/
theorem breaksOff_close (hopen : ∀ e ∈ t.journal, ¬ e.OfStage .close) (told : Option Reply)
    (read : Nat) : BreaksOff service told read t (((t.tell told).close service).countRead read) := by
  cases hrun : (t.tell told).runStage service .close with
  | mk mid refusal =>
      obtain ⟨checks, hran, hjournal⟩ := ran_of_runStage hrun
      have hleaves := leaves_of_runStage hrun
      rw [tell_transaction, tell_journal] at hjournal
      rw [close_eq service (t.tell told) hrun]
      refine ⟨rfl, ⟨checks, refusal, hran, hjournal⟩, ?_, ?_, ?_, ?_, ?_, run_of_closed rfl⟩
      · have honce : mid.journal.countP (Event.starts .close) = 1 := by
          rw [hjournal]
          exact countP_starts_close _ hran.verdicts told hopen
        exact honce
      · have hreplies : mid.replies = t.replies ++ told.toList := by
          rw [Session.replies, hjournal]
          exact filterMap_reply?_close _ hran.verdicts told
        exact hreplies
      · exact hleaves.commands.trans (tell_commands told)
      · have htally : mid.tally = t.tally.add ⟨0, sizes told.toList, 0⟩ :=
          hleaves.tally.trans (tell_tally told)
        have hread : ((mid.mapTransaction fun tx => { tx with shared := tx.finish }).inPhase
            .closed).tally = mid.tally := rfl
        rw [countRead, hread, htally]
        simp [Tally.add]
      · intro hkeeps
        have hkarma := seen_of_runStage hkeeps hrun
        rw [tell_transaction] at hkarma
        exact hkarma

/-- Whatever has happened on a connection, and however much has arrived of a line or of a body: if
the deadline passes, or the client sends nothing more, the connection breaks off.  Only a client
that owes a line when the deadline passes is told so.  What has arrived in part is counted, and
leaves no other trace. -/
theorem run_cutShort (service : Service W) (tx : Transaction) (world : W) (inputs : List Input) :
    let t := (start service tx world).run service inputs
    ∀ fault told, CutShort t.phase fault told → ∀ chunks : List (List UInt8),
      t.phase.Lasts chunks.flatten →
        let after := t.run service (chunks.map .bytes ++ [fault])
        BreaksOff service told chunks.flatten.length t after ∧
          after = (t.step service fault).countRead chunks.flatten.length := by
  intro t fault told hcut chunks hlasts after
  have hphase : t.phase ≠ .closed := by
    intro hclosed
    rw [hclosed] at hcut
    cases hcut
  have hopen := (run_onCourse service tx world inputs).not_ofStage_close hphase
  obtain ⟨phase, hreceive, hsame⟩ := receive_of_lasts service hlasts
  have hafter : after = (t.step service fault).countRead chunks.flatten.length := by
    have hbytes : after = (t.run service (chunks.map .bytes)).step service fault :=
      List.foldl_append
    rw [hbytes, run_bytes, hreceive, step_cutShort hcut, step_cutShort (hsame fault told hcut),
      tell_inPhase, close_inPhase, tell_countRead, close_countRead]
  refine ⟨?_, hafter⟩
  rw [hafter, step_cutShort hcut]
  exact breaksOff_close hopen told _

/-- A client that goes away in the middle of a body, right behind what might have been its end, and
one that is too slow for a line. -/
theorem run_cutShort_body_line :
    let asked := Sample.start.run Sample.service [.bytes Sample.opening]
    let gone := asked.run Sample.service [.bytes (Text.Utf8.encode "hi\r\n.\r"), .ended]
    let late := Sample.start.run Sample.service
      [.bytes (Text.Utf8.encode "NO"), .bytes (Text.Utf8.encode "OP\r"), .expired]
    BreaksOff Sample.service none 6 asked gone ∧
      BreaksOff Sample.service (some ⟨421, "Connection timed out."⟩) 5 Sample.start late := by
  intro asked gone late
  have hasked : CutShort asked.phase .ended none := by
    have hphase : asked.phase = .body { limit := 10240000 } := by decide +kernel
    exact hphase ▸ .bodyEnded _
  have hstart : CutShort Sample.start.phase .expired (some ⟨421, "Connection timed out."⟩) := by
    have hphase : Sample.start.phase = .command {} := by decide +kernel
    exact hphase ▸ .commandExpired _
  have hgone := run_cutShort Sample.service (.start ⟨1⟩ "mx" Sample.place Sample.place)
    Sample.office [.bytes Sample.opening] .ended none hasked [Text.Utf8.encode "hi\r\n.\r"]
    (by decide +kernel)
  have hlate := run_cutShort Sample.service (.start ⟨1⟩ "mx" Sample.place Sample.place)
    Sample.office [] .expired _ hstart [Text.Utf8.encode "NO", Text.Utf8.encode "OP\r"]
    (by decide +kernel)
  exact ⟨hgone.1, hlate.1⟩

end Turn
end MailIntake
