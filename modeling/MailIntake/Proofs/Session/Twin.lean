import Mathlib.Data.List.Forall2
import MailIntake.Proofs.Session.Simulation
import MailIntake.Proofs.Text.Numeral
import MailIntake.Proofs.Text.Split
import MailIntake.Proofs.Text.Utf8
/-!
One connection seen twice, under different identifiers and in different worlds.  If checkers depend
on nothing but the transaction, and on nothing of its identifier, all that happens is the same, down
to the last count: the words with which a client is sent off name the identifier, and they are as
long under any other (`Session.Twin`, `Twin.run`).
-/
namespace MailIntake

open Text

universe u

variable {W : Type u}

def Transaction.relabel (f : TransactionId → TransactionId) (tx : Transaction) : Transaction :=
  { tx with shared := { tx.shared with id := f tx.shared.id } }

/-- A checker that depends on nothing but the transaction it is given, whatever it does to the
world. -/
structure Checker.IgnoresWorld (checker : Checker W) : Prop where
  refusal : ∀ tx world world', (checker tx world').refusal = (checker tx world).refusal
  transaction : ∀ tx world world', (checker tx world').transaction = (checker tx world).transaction

/-- A checker that does to a transaction under another identifier what it does to this one. -/
structure Checker.Relabels (f : TransactionId → TransactionId) (checker : Checker W) : Prop where
  refusal : ∀ tx world, (checker (tx.relabel f) world).refusal = (checker tx world).refusal
  transaction : ∀ tx world,
    (checker (tx.relabel f) world).transaction = (checker tx world).transaction.relabel f

structure Service.IgnoresWorld (service : Service W) : Prop where
  stages : ∀ stage, ∀ checker ∈ service.pipelines.checkers stage, checker.IgnoresWorld
  authenticator : ∀ authenticator, service.authenticator = some authenticator →
    ∀ username password, Checker.IgnoresWorld (authenticator username password)

/-- For all checkers and the authenticator one identifier is as good as the other. -/
structure Service.Relabels (service : Service W) (f : TransactionId → TransactionId) : Prop where
  stages : ∀ stage, ∀ checker ∈ service.pipelines.checkers stage, checker.Relabels f
  authenticator : ∀ authenticator, service.authenticator = some authenticator →
    ∀ username password, Checker.Relabels f (authenticator username password)

theorem Service.relabels_id (service : Service W) : service.Relabels id where
  stages _ _ _ := ⟨fun _ _ => rfl, fun _ _ => rfl⟩
  authenticator _ _ _ _ := ⟨fun _ _ => rfl, fun _ _ => rfl⟩

/-- The same event on a connection with the identifier that `f` gives it. -/
inductive Event.Twin (f : TransactionId → TransactionId) : Event → Event → Prop
  | same (e : Event) (he : ∀ stage tx, e ≠ .stage stage tx) : Twin f e e
  | stage (stage : Stage) (tx : Transaction) :
      Twin f (.stage stage tx) (.stage stage (tx.relabel f))
  | farewell (id : TransactionId) :
      Twin f (.replied ⟨221, farewell id⟩) (.replied ⟨221, farewell (f id)⟩)

/-- The same connection with the identifier that `f` gives it: everything that has happened, that
has been counted and that is held is the same. -/
structure Session.Twin (f : TransactionId → TransactionId) (session other : Session) : Prop where
  transaction : other.transaction = session.transaction.relabel f
  phase : session.phase = other.phase
  commands : session.commands = other.commands
  tally : session.tally = other.tally
  journal : List.Forall₂ (Event.Twin f) session.journal other.journal

theorem Event.twin_id_iff {e other : Event} : Event.Twin id e other ↔ e = other := by
  constructor
  · rintro (_ | _ | _)
    · rfl
    · rfl
    · rfl
  · rintro rfl
    cases e with
    | stage stage tx => exact .stage stage tx
    | command | overlong | checked | authenticated | replied => exact .same _ (by simp)

/-- Under its own identifier a connection has no twin but itself. -/
theorem Session.twin_id_iff {session other : Session} :
    session.Twin id other ↔ session = other := by
  have hevents : Event.Twin id = Eq := by
    funext e other
    exact propext Event.twin_id_iff
  constructor
  · intro htwin
    obtain ⟨transaction, phase, commands, tally, journal⟩ := session
    obtain ⟨transaction', phase', commands', tally', journal'⟩ := other
    obtain ⟨htransaction, hphase, hcommands, htally, hjournal⟩ := htwin
    rw [hevents, List.forall₂_eq_eq_eq] at hjournal
    cases hphase
    cases hcommands
    cases htally
    cases hjournal
    cases htransaction
    rfl
  · rintro rfl
    refine ⟨rfl, rfl, rfl, rfl, ?_⟩
    rw [hevents, List.forall₂_eq_eq_eq]

section Farewell

theorem TransactionId.length_render (id : TransactionId) : id.render.toList.length = 32 := by
  have hlength : (Nat.toDigits 16 id.bits.toNat).length ≤ 32 :=
    Nat.toDigits_length 16 id.bits.toNat 32 (by decide) id.bits.isLt
  rw [render, String.toList_ofList, List.length_append, List.length_replicate]
  exact Nat.sub_add_cancel hlength

/-- An identifier is written in ASCII and on one line. -/
theorem TransactionId.plain_of_mem_render {id : TransactionId} {c : Char}
    (hc : c ∈ id.render.toList) : c.toNat < 128 ∧ c ≠ '\n' := by
  rw [render, String.toList_ofList, List.mem_append, List.mem_replicate] at hc
  rcases hc with ⟨-, rfl⟩ | hdigit
  · decide
  · obtain ⟨digit, hlt, rfl⟩ := exists_digit_of_mem_toDigits hdigit
    clear hdigit
    decide +revert

theorem toList_farewell (id : TransactionId) : (farewell id).toList =
    "OK, bye, see you soon! (transaction ".toList ++ id.render.toList ++ ")".toList := by
  show ("OK, bye, see you soon! (transaction " ++ id.render ++ ")").toList = _
  rw [String.toList_append, String.toList_append]

/-- The words with which a client is sent off are written in ASCII and on one line. -/
theorem plain_of_mem_farewell {id : TransactionId} {c : Char} (hc : c ∈ (farewell id).toList) :
    c.toNat < 128 ∧ c ≠ '\n' := by
  have hfixed : ∀ d ∈ "OK, bye, see you soon! (transaction ".toList ++ ")".toList,
      d.toNat < 128 ∧ d ≠ '\n' := by simp
  rw [toList_farewell, List.mem_append, List.mem_append] at hc
  rcases hc with (hfront | hid) | hback
  · exact hfixed c (List.mem_append_left _ hfront)
  · exact TransactionId.plain_of_mem_render hid
  · exact hfixed c (List.mem_append_right _ hback)

theorem textLines_of_feed_notMem {text : List Char} (hne : text ≠ []) (hfeed : '\n' ∉ text) :
    textLines text = [text] := by
  have hpiece : splitOn (· == '\n') text = [text] :=
    splitOn_of_forall fun c hc => beq_false_of_ne fun heq => hfeed (heq ▸ hc)
  simp [textLines, hpiece, hne]

/-- The words with which a client is sent off are as long for any other. -/
theorem size_farewell (id : TransactionId) :
    (Utf8.encode (Reply.render ⟨221, farewell id⟩)).length = 75 := by
  have hlines : textLines (farewell id).toList = [(farewell id).toList] :=
    textLines_of_feed_notMem (by simp [toList_farewell]) fun hfeed =>
      (plain_of_mem_farewell hfeed).2 rfl
  have hcode : (toString (221 : UInt16).toNat).toList = ['2', '2', '1'] := by decide +kernel
  have hrender : (Reply.render ⟨221, farewell id⟩).toList =
      ['2', '2', '1', ' '] ++ (farewell id).toList ++ ['\r', '\n'] := by
    rw [Reply.render, String.toList_ofList, hlines, Reply.renderLines, Reply.renderLine, hcode]
    rfl
  have hascii : ∀ c ∈ (Reply.render ⟨221, farewell id⟩).toList, c.toNat < 128 := by
    have hcode : ∀ c ∈ ['2', '2', '1', ' '], c.toNat < 128 := by simp
    have hend : ∀ c ∈ ['\r', '\n'], c.toNat < 128 := by simp
    rw [hrender, List.forall_mem_append, List.forall_mem_append]
    exact ⟨⟨hcode, fun c hc => (plain_of_mem_farewell hc).1⟩, hend⟩
  rw [Utf8.encode_of_ascii hascii, List.length_map, hrender]
  simp [toList_farewell, TransactionId.length_render]

end Farewell

namespace Session.Twin

variable {service : Service W} {f : TransactionId → TransactionId} {t t' : Turn W}

theorem own (h : t.toSession.Twin f t'.toSession) : t.transaction.own = t'.transaction.own := by
  rw [h.transaction]
  rfl

theorem note (h : t.toSession.Twin f t'.toSession) {e e' : Event} (he : e.Twin f e') :
    (t.note e).toSession.Twin f (t'.note e').toSession :=
  ⟨h.transaction, h.phase, h.commands, h.tally, .cons he h.journal⟩

/-- A change of the transaction that has nothing to do with its identifier. -/
theorem mapTransaction (h : t.toSession.Twin f t'.toSession) {g : Transaction → Transaction}
    (hg : ∀ tx, g (tx.relabel f) = (g tx).relabel f) :
    (t.mapTransaction g).toSession.Twin f (t'.mapTransaction g).toSession := by
  refine ⟨?_, h.phase, h.commands, h.tally, h.journal⟩
  rw [Turn.mapTransaction_transaction, Turn.mapTransaction_transaction, h.transaction, hg]

theorem replied (h : t.toSession.Twin f t'.toSession) {code : UInt16} {message message' : String}
    (htwin : Event.Twin f (.replied ⟨code, message⟩) (.replied ⟨code, message'⟩))
    (hsize : (Utf8.encode (Reply.render ⟨code, message⟩)).length =
      (Utf8.encode (Reply.render ⟨code, message'⟩)).length) :
    (t.reply code message).toSession.Twin f (t'.reply code message').toSession := by
  have hnoted := h.note htwin
  refine ⟨hnoted.transaction, hnoted.phase, hnoted.commands, ?_, hnoted.journal⟩
  simp only [Turn.reply, hsize, h.tally]

/-- A question to a checker or to the authenticator. -/
theorem judged (h : t.toSession.Twin f t'.toSession) {checker : Checker W}
    (hignores : checker.IgnoresWorld) (hrelabels : checker.Relabels f)
    (e : Option Refusal → Event) (he : ∀ refusal stage tx, e refusal ≠ .stage stage tx) :
    let after (t : Turn W) : Turn W := { t with
      transaction := (checker t.transaction t.world).transaction
      world := (checker t.transaction t.world).world
      journal := e (checker t.transaction t.world).refusal :: t.journal }
    (checker t.transaction t.world).refusal = (checker t'.transaction t'.world).refusal ∧
      (after t).toSession.Twin f (after t').toSession := by
  have hrefusal : (checker t'.transaction t'.world).refusal =
      (checker t.transaction t.world).refusal := by
    rw [h.transaction, hrelabels.refusal, hignores.refusal _ t.world]
  refine ⟨hrefusal.symm, ?_, h.phase, h.commands, h.tally, ?_⟩
  · show (checker t'.transaction t'.world).transaction = _
    rw [h.transaction, hrelabels.transaction, hignores.transaction _ t.world]
  · simp only [hrefusal]
    exact .cons (.same _ (he _)) h.journal

/-- Where checkers and the authenticator depend on nothing but the transaction and on nothing of its
identifier, every step keeps twins. -/
theorem simulation (hignores : service.IgnoresWorld) (hrelabels : service.Relabels f) :
    Turn.Simulation service fun t t' => t.toSession.Twin f t'.toSession where
  phase h := h.phase
  own h := h.own
  first h _ := by rw [h.commands]
  note h e he := h.note (.same e he)
  began h stage := by
    rw [h.transaction]
    exact h.note (.stage stage _)
  asked h stage checker hchecker place :=
    h.judged (hignores.stages stage checker hchecker) (hrelabels.stages stage checker hchecker)
      (.checked stage place) (by simp)
  questioned h authenticator hauthenticator username password :=
    h.judged (hignores.authenticator authenticator hauthenticator username password)
      (hrelabels.authenticator authenticator hauthenticator username password)
      (.authenticated username password) (by simp)
  mapPeer h g := h.mapTransaction fun _ => rfl
  mapEnvelope h g := h.mapTransaction fun _ => rfl
  mapMetadata h g := h.mapTransaction fun _ => rfl
  finish h := h.mapTransaction fun _ => rfl
  countRead h bytes := ⟨h.transaction, h.phase, h.commands, by simp [Turn.countRead, h.tally],
    h.journal⟩
  countMessage h := ⟨h.transaction, h.phase, h.commands, by simp [Turn.countMessage, h.tally],
    h.journal⟩
  countCommand h := ⟨h.transaction, h.phase, congrArg (· + 1) h.commands, h.tally, h.journal⟩
  inPhase h _ := ⟨h.transaction, rfl, h.commands, h.tally, h.journal⟩
  reply h code message := h.replied (.same _ (by simp)) rfl
  farewell h := by
    rw [h.transaction]
    exact h.replied (.farewell _) ((size_farewell _).trans (size_farewell _).symm)

/-- An input keeps twins, whatever their worlds are. -/
theorem step (hignores : service.IgnoresWorld) (hrelabels : service.Relabels f)
    {session other : Session} (h : session.Twin f other) (world world' : W) (input : Input) :
    (Turn.step service { session with world } input).toSession.Twin f
      (Turn.step service { other with world := world' } input).toSession := by
  let t : Turn W := { session with world }
  let t' : Turn W := { other with world := world' }
  have hlinked : Turn.Linked service _ t t' := ⟨simulation hignores hrelabels, h⟩
  exact (hlinked.run [input]).related

/-- Connections that start under different identifiers are twins. -/
theorem start (hignores : service.IgnoresWorld) (hrelabels : service.Relabels f)
    (id : TransactionId) (serverHostname : String) (localAddr remoteAddr : Address.Endpoint)
    (world world' : W) :
    (Turn.start service (.start id serverHostname localAddr remoteAddr) world).toSession.Twin f
      (Turn.start service (.start (f id) serverHostname localAddr remoteAddr)
        world').toSession := by
  let opening : Turn W :=
    { transaction := .start id serverHostname localAddr remoteAddr, phase := .opening, world }
  let opening' : Turn W :=
    { transaction := .start (f id) serverHostname localAddr remoteAddr, phase := .opening
      world := world' }
  have hopening : opening.toSession.Twin f opening'.toSession := ⟨rfl, rfl, rfl, rfl, .nil⟩
  have hlinked : Turn.Linked service _ opening opening' :=
    ⟨simulation hignores hrelabels, hopening⟩
  rw [Turn.start, Turn.start]
  split
  · exact hopening
  · exact hlinked.begin.related

end Session.Twin
end MailIntake
