import MailIntake.Proofs.Session.Body
import MailIntake.Proofs.Session.Credentials
import MailIntake.Proofs.Session.Isolation
/-!
What was said before encryption is forgotten.  Behind a handshake that STARTTLS asked for, a
connection is where one would be that had begun with the handshake: the greeting, the message at
hand and the bytes sent along with the STARTTLS line have no part in what follows
(`run_upgraded_alike_fresh`).
-/
namespace MailIntake

universe u

variable {W : Type u}

/-- The client as it is before it has given its name. -/
def Peer.unintroduced (p : Peer) : Peer :=
  { p with helo := none, protocol := .smtp }

def Service.encrypting (service : Service W) : Service W :=
  { service with settings := { service.settings with implicitTls := true } }

/-- If nobody may speak for the client and no checker changes anything of it, all but its greeting
is to be seen. -/
theorem Service.sees_unintroduced {service : Service W}
    (hproxy : service.settings.enableProxyProtocol = false)
    (hxclient : service.settings.enableXclient = false)
    (hkeeps : service.Keeps fun tx _ => tx.own) : service.Sees Peer.unintroduced where
  greeting _ _ _ := rfl
  address henabled := by simp [hproxy, hxclient] at henabled
  attributes henabled := by simp [hxclient] at henabled
  stages stage checker hchecker tx world :=
    congrArg (fun own => Peer.unintroduced own.1) (hkeeps.stages stage checker hchecker tx world)

namespace Turn

section Encrypting

variable (service : Service W) (t : Turn W)

theorem close_encrypting : t.close service.encrypting = t.close service := rfl

theorem begin_encrypting : t.begin service.encrypting = t.begin service := rfl

theorem endBody_encrypting (outcome : BodyOutcome) :
    t.endBody service.encrypting outcome = t.endBody service outcome := rfl

theorem judge_encrypting (username password : String) :
    t.judge service.encrypting username password = t.judge service username password := rfl

theorem respond_encrypting (step : AuthStep) (response : String) :
    t.respond service.encrypting step response = t.respond service step response := by
  cases step with
  | credentials | username | password username => simp only [respond, judge_encrypting]

theorem takeResponse_encrypting (step : AuthStep) (line : Line) :
    t.takeResponse service.encrypting step line = t.takeResponse service step line := by
  cases line with
  | tooLong => simp only [takeResponse]
  | text text => simp only [takeResponse, respond_encrypting]

theorem auth_encrypting (line : CommandLine) :
    t.auth service.encrypting line = t.auth service line := by
  have hexchange : ∀ mechanism initial, t.exchange service.encrypting mechanism initial =
      t.exchange service mechanism initial := by
    intro mechanism initial
    cases mechanism with
    | plain | login =>
        cases initial with
        | none | some response => simp only [exchange, respond_encrypting]
  simp only [auth, hexchange]
  rfl

theorem execute_encrypting (verb : CommandLine.Verb) (line : CommandLine) :
    t.execute service.encrypting verb line = t.execute service verb line := by
  cases verb with
  | auth => exact auth_encrypting service t line
  | helo | ehlo | mail | rcpt | data | rset | noop | quit | startTls | proxy | xclient => rfl

theorem takeLine_encrypting (line : Line) :
    t.takeLine service.encrypting line = t.takeLine service line := by
  cases line with
  | tooLong => rfl
  | text text => simp only [takeLine, dispatch, execute_encrypting]

theorem endHandshake_encrypting (result : Option Handshake) :
    t.endHandshake service.encrypting result = t.endHandshake service result := by
  simp only [endHandshake, begin_encrypting, close_encrypting]

/-- Whether connections open with a handshake does not matter behind their start. -/
theorem heed_encrypting (signal : Signal) :
    t.heed service.encrypting signal = t.heed service signal := by
  cases signal with
  | byte b =>
      simp only [heed, takeByte, takeLine_encrypting, takeResponse_encrypting, endBody_encrypting]
  | handshake result => exact endHandshake_encrypting service t result
  | ended => simp only [heed, endInput, endHandshake_encrypting, close_encrypting]
  | expired => simp only [heed, expire, close_encrypting]

theorem run_encrypting (inputs : List Input) :
    t.run service.encrypting inputs = t.run service inputs := by
  have hheed : heed service.encrypting = heed service := by
    funext t signal
    exact heed_encrypting service t signal
  rw [run_eq_heedAll, run_eq_heedAll, heedAll, heedAll, hheed]

end Encrypting

/-- While a connection is not encrypted, nothing is known about the client but its greeting and what
was known at the start; only encrypted connections wait for credentials, and only others for a
handshake. -/
structure Unsecured (start : Peer) (t : Turn W) : Prop where
  peer : t.Talking → t.transaction.peer.encrypted = false →
    t.transaction.peer.unintroduced = start
  response : ∀ step reader, t.phase = .response step reader →
    t.transaction.peer.encrypted = true
  handshake : t.phase = .handshake → t.transaction.peer.encrypted = false

section Unsecured

variable {service : Service W} {start : Peer} {t after : Turn W}

/-- An encrypted connection is none of those. -/
theorem Unsecured.of_encrypted (hencrypted : t.transaction.peer.encrypted = true)
    (hphase : t.phase ≠ .handshake) : Unsecured start t where
  peer _ hplain := by
    rw [hencrypted] at hplain
    cases hplain
  response _ _ _ := hencrypted
  handshake h := absurd h hphase

/-- Nor is a connection that has not been opened yet, or that has been closed. -/
theorem Unsecured.of_silent (hsilent : ¬ t.Talking) : Unsecured start t where
  peer htalking := absurd htalking hsilent
  response _ _ h := absurd (by simp [Talking, h]) hsilent
  handshake h := absurd (by simp [Talking, h]) hsilent

theorem Exchanged.encrypted (hkeeps : service.Keeps fun tx _ => tx.own)
    (hexchanged : Exchanged service t after) :
    after.transaction.peer.encrypted = t.transaction.peer.encrypted ∧
      after.phase ≠ .handshake := by
  have hasked : ∀ authenticator username password, service.authenticator = some authenticator →
      (t.questioned authenticator username password).transaction.peer.encrypted =
        t.transaction.peer.encrypted := by
    intro authenticator username password hauthenticator
    exact congrArg (fun own => own.1.encrypted)
      (hkeeps.authenticator authenticator hauthenticator username password t.transaction t.world)
  cases hexchanged with
  | refused cost code message hcode =>
      refine ⟨?_, by simp⟩
      rw [conclude_transaction, refuse_eq, reply_transaction]
      rfl
  | challenged step =>
      refine ⟨?_, by simp⟩
      rw [challenge_transaction]
  | rejected authenticator username password r hauthenticator hverdict =>
      refine ⟨?_, by simp⟩
      rw [conclude_transaction, replyRefusal_eq, reply_transaction]
      exact hasked authenticator username password hauthenticator
  | accepted authenticator username password hauthenticator hverdict =>
      refine ⟨?_, by simp⟩
      rw [conclude_transaction, reply_transaction]
      exact hasked authenticator username password hauthenticator

theorem Begun.encrypted (hkeeps : service.Keeps fun tx _ => tx.own)
    (hbegun : Begun service t after) (hencrypted : t.transaction.peer.encrypted = true) :
    Unsecured start after := by
  cases hbegun with
  | refused mid r hrun => exact .of_silent fun htalking => htalking.2 rfl
  | greeted mid hrun =>
      have hmid := seen_of_runStage (hkeeps.stages .connection) hrun
      refine .of_encrypted ?_ (by simp)
      rw [awaitCommand_transaction, greet, reply_transaction]
      exact (congrArg (fun own : Peer × Envelope => own.1.encrypted) hmid).trans hencrypted

/-- A signal can bring encryption, and without it nothing is learned about the client. -/
theorem Unsecured.proceeds (hkeeps : service.Keeps fun tx _ => tx.own)
    (hunsecured : Unsecured start t) (hproceeds : Proceeds service Peer.unintroduced t after) :
    Unsecured start after := by
  cases hproceeds with
  | still htransaction hjournal hphase =>
      constructor
      · intro htalking hplain
        rw [htransaction] at hplain ⊢
        exact hunsecured.peer ⟨mt hphase.opening.mpr htalking.1, mt hphase.closed.mpr htalking.2⟩
          hplain
      · intro step reader hresponse
        obtain ⟨earlier, hbefore⟩ := hphase.response step reader hresponse
        rw [htransaction]
        exact hunsecured.response step earlier hbefore
      · intro hhandshake
        rw [htransaction]
        exact hunsecured.handshake (hphase.handshake.mp hhandshake)
  | on htalking hstays hphase =>
      have hencrypted : after.transaction.peer.unintroduced.encrypted =
          t.transaction.peer.unintroduced.encrypted := by rw [hstays.peer]
      simp only [Peer.unintroduced] at hencrypted
      constructor
      · intro _ hplain
        rw [hencrypted] at hplain
        rw [hstays.peer]
        exact hunsecured.peer htalking hplain
      · intro step reader hresponse
        rcases hphase with ⟨reader', h⟩ | ⟨d, h⟩ | ⟨h, -⟩
        · cases h.symm.trans hresponse
        · cases h.symm.trans hresponse
        · cases h.symm.trans hresponse
      · intro hhandshake
        rcases hphase with ⟨reader', h⟩ | ⟨d, h⟩ | ⟨-, hplain⟩
        · cases h.symm.trans hhandshake
        · cases h.symm.trans hhandshake
        · rw [hencrypted, hplain]
  | left htalking hstays => exact .of_silent fun htalking => htalking.2 rfl
  | exchanged hstays htransaction hworld hphase hexchanged =>
      obtain ⟨hencrypted, hne⟩ := hexchanged.encrypted hkeeps
      refine .of_encrypted ?_ hne
      rw [hencrypted, htransaction]
      rcases hphase with ⟨step, reader, hphase⟩ | ⟨-, hmay⟩
      · exact hunsecured.response step reader hphase
      · exact hmay.encrypted
  | failed hphase hpeer hjournal => exact .of_silent fun htalking => htalking.2 rfl
  | begun h hphase hbegun => exact hbegun.encrypted hkeeps rfl
  | upgraded h hphase => exact .of_encrypted rfl (by simp [Turn.upgraded])

/-- What is known about a client that has just connected. -/
def newcomer (service : Service W) (serverHostname : String)
    (localAddr remoteAddr : Address.Endpoint) : Peer :=
  { serverHostname, localAddr, remoteAddr, ptrs := namesOf service remoteAddr.ip }

variable (service) (id : TransactionId) (serverHostname : String)
  (localAddr remoteAddr : Address.Endpoint) (world : W)

theorem start_unsecured (hkeeps : service.Keeps fun tx _ => tx.own) :
    Unsecured (newcomer service serverHostname localAddr remoteAddr)
      (Turn.start service (.start id serverHostname localAddr remoteAddr) world) := by
  rw [Turn.start]
  split
  · exact .of_silent fun htalking => htalking.1 rfl
  · have hbegun :=
      begin_begun service (admitted id serverHostname localAddr remoteAddr world)
    rw [admitted] at hbegun
    generalize Turn.begin service _ = after at hbegun ⊢
    cases hbegun with
    | refused mid r hrun => exact .of_silent fun htalking => htalking.2 rfl
    | greeted mid hrun =>
        have hmid := seen_of_runStage (hkeeps.stages .connection) hrun
        refine ⟨fun _ _ => ?_, fun _ _ h => by simp at h, fun h => by simp at h⟩
        rw [awaitCommand_transaction, greet, reply_transaction]
        exact congrArg (fun own : Peer × Envelope => own.1.unintroduced) hmid

/-- A connection without a message at hand that has seen a handshake and no greeting. -/
structure Fresh (peer : Peer) (h : Handshake) (t : Turn W) : Prop where
  phase : t.phase = .command {}
  own : t.transaction.own =
    ({ peer with secured := h.secured, tls := some h.info, encrypted := true }, {})

variable {service id serverHostname localAddr remoteAddr world}

/-- Behind the handshake that STARTTLS asked for, all is as it was at the start. -/
theorem Unsecured.fresh {peer : Peer} (hunsecured : Unsecured peer t)
    (hphase : t.phase = .handshake) (h : Handshake) : Fresh peer h (t.upgraded h) := by
  have hpeer := hunsecured.peer (by simp [Talking, hphase]) (hunsecured.handshake hphase)
  refine ⟨rfl, ?_⟩
  rw [← hpeer]
  rfl

/-- A connection that opens with a handshake and is let in has no other past. -/
theorem fresh_of_encrypting (hoffers : service.offersTls = true)
    (hkeeps : service.Keeps fun tx _ => tx.own) (h : Handshake) {fresh : Turn W}
    (hfresh : (Turn.start service.encrypting (.start id serverHostname localAddr remoteAddr)
      world).run service.encrypting [.handshake (some h)] = fresh)
    (hopen : fresh.phase ≠ .closed) :
    Fresh (newcomer service serverHostname localAddr remoteAddr) h fresh := by
  have hopening : Turn.start service.encrypting (.start id serverHostname localAddr remoteAddr)
      world = admitted id serverHostname localAddr remoteAddr world := by
    rw [Turn.start, if_pos ⟨rfl, hoffers⟩, admitted]
  rw [hopening, run_encrypting] at hfresh
  have hbegun := begin_begun service
    (encrypt h (admitted id serverHostname localAddr remoteAddr world))
  have hsame : begin service (encrypt h (admitted id serverHostname localAddr remoteAddr world)) =
      fresh := hfresh
  rw [hsame] at hbegun
  cases hbegun with
  | refused mid r hrun => exact absurd rfl hopen
  | greeted mid hrun =>
      have hmid := seen_of_runStage (hkeeps.stages .connection) hrun
      refine ⟨rfl, ?_⟩
      rw [awaitCommand_transaction, greet, reply_transaction]
      exact hmid

end Unsecured

/-- Take a service that offers encryption, lets nobody speak for the client and has checkers that
write nothing but metadata and look at nothing but the protocol state and the message at hand.  Let
a connection to it come to the handshake that STARTTLS asks for, by any history, with any bytes
sent along behind the STARTTLS line; and let another connection from the same client open with the
same handshake and be let in.  From there on the two write down the same whatever arrives: the same
replies, and the same stages with the same clients and the same messages, identifiers and metadata
aside. -/
theorem run_upgraded_alike_fresh (service : Service W) (hoffers : service.offersTls = true)
    (hproxy : service.settings.enableProxyProtocol = false)
    (hxclient : service.settings.enableXclient = false)
    (hkeeps : service.Keeps fun tx _ => tx.own) (hrespects : service.Respects fun _ _ => True)
    (id id' : TransactionId) (serverHostname : String) (localAddr remoteAddr : Address.Endpoint)
    (world world' : W) (plain : List Input) (history : List Signal) (along : List UInt8)
    (h : Handshake) :
    let start := start service (.start id serverHostname localAddr remoteAddr) world
    let upgraded := start.run service (plain ++ [.handshake (some h)])
    let fresh := (Turn.start service.encrypting (.start id' serverHostname localAddr remoteAddr)
      world').run service.encrypting [.handshake (some h)]
    plain.flatMap Input.signals = history ++ along.map .byte →
      (start.heedAll service history).phase = .handshake → fresh.phase ≠ .closed →
        ∀ inputs : List Input, ∃ newer newer',
          (upgraded.run service inputs).journal = newer ++ upgraded.journal ∧
          (fresh.run service.encrypting inputs).journal = newer' ++ fresh.journal ∧
          List.Forall₂ Event.Alike newer newer' ∧
          (upgraded.run service inputs).phase = (fresh.run service.encrypting inputs).phase := by
  intro start upgraded fresh hplain hhandshake hopen inputs
  have hsees := Service.sees_unintroduced hproxy hxclient hkeeps
  have hunsecured : Unsecured (newcomer service serverHostname localAddr remoteAddr)
      (start.heedAll service history) :=
    heedAll_induction (fun before signal after hmove hbefore =>
      hbefore.proceeds hkeeps (hmove.proceeds hsees)) history
      (start_unsecured service id serverHostname localAddr remoteAddr world hkeeps)
  have hupgraded : upgraded = (start.heedAll service history).upgraded h := by
    have hdeaf : (start.heedAll service history).receive service along =
        start.heedAll service history := receive_of_deaf service _ (.inr (.inl hhandshake)) along
    have hinputs : (plain ++ [Input.handshake (some h)]).flatMap Input.signals =
        history ++ along.map .byte ++ [.handshake (some h)] := by
      rw [List.flatMap_append, hplain]
      rfl
    change start.run service _ = _
    rw [run_eq_heedAll, hinputs, heedAll_concat, heedAll_append, heedAll_bytes, hdeaf]
    simp only [heed, endHandshake, hhandshake]
  have hfresh : Fresh (newcomer service serverHostname localAddr remoteAddr) h fresh :=
    fresh_of_encrypting hoffers hkeeps h rfl hopen
  have hsame : Fresh (newcomer service serverHostname localAddr remoteAddr) h upgraded := by
    rw [hupgraded]
    exact hunsecured.fresh hhandshake h
  have hparallel : Parallel service (fun _ _ => True) upgraded.journal fresh.journal upgraded
      fresh := by
    refine ⟨?_, ?_, trivial, ?_, [], [], rfl, rfl, .nil⟩
    · rw [hsame.phase, hfresh.phase]
    · rw [hsame.own, hfresh.own]
    · intro henabled
      rw [hproxy] at henabled
      cases henabled
  have hmore := hparallel.run hrespects inputs
  rw [run_encrypting]
  obtain ⟨newer, newer', hnewer, hnewer', halike⟩ := hmore.journal
  exact ⟨newer, newer', hnewer, hnewer', halike, hmore.phase⟩

end Turn

namespace Sample

/-- A service that offers encryption and turns away one name and one recipient. -/
def guarded : Service Office :=
  { hostname := "mx"
    offersTls := true
    pipelines := { helo := [nameCheck], recipient := [turnAway] } }

def secondThought : List UInt8 :=
  Text.Utf8.encode "HELO c\r\nMAIL FROM:<>\r\nSTARTTLS\r\n"

theorem guarded_keeps {A : Type u} (view : Transaction → A) :
    guarded.Keeps fun tx _ => view tx where
  stages stage checker hchecker := by
    cases stage with
    | helo | recipient candidate =>
        rw [List.mem_singleton.mp hchecker]
        exact fun tx office => rfl
    | connection | sender | data | handler | close => cases hchecker
  authenticator _ hauthenticator := nomatch hauthenticator

theorem nameCheck_respects : Checker.Respects (fun _ _ => True) nameCheck where
  refusal {tx tx'} _ _ hown _ := by
    have hpeer : tx.peer = tx'.peer := congrArg Prod.fst hown
    rw [nameCheck, nameCheck, hpeer]
  own hown _ := hown
  world _ _ := trivial

theorem guarded_respects : guarded.Respects fun _ _ => True where
  stages stage checker hchecker := by
    cases stage with
    | helo =>
        rw [List.mem_singleton.mp hchecker]
        exact nameCheck_respects
    | recipient candidate =>
        rw [List.mem_singleton.mp hchecker]
        exact ⟨fun _ _ => rfl, fun hown _ => hown, fun _ _ => trivial⟩
    | connection | sender | data | handler | close => cases hchecker
  authenticator _ hauthenticator := nomatch hauthenticator

end Sample

namespace Turn

/-- A client that has begun a message before encryption, and sent more behind STARTTLS. -/
theorem run_upgraded_alike_fresh_secondThought :
    let along := Text.Utf8.encode "RCPT TO:<d@e>\r\n"
    let upgraded := (start Sample.guarded (.start ⟨1⟩ "mx" Sample.place Sample.place)
      Sample.office).run Sample.guarded
        ([.bytes (Sample.secondThought ++ along)] ++ [.handshake (some Sample.agreement)])
    let fresh := (start Sample.guarded.encrypting (.start ⟨2⟩ "mx" Sample.place Sample.place)
      Sample.office).run Sample.guarded.encrypting [.handshake (some Sample.agreement)]
    let inputs := [.bytes (Sample.oneRecipient ++ Sample.letter)]
    ∃ newer newer', (upgraded.run Sample.guarded inputs).journal = newer ++ upgraded.journal ∧
      (fresh.run Sample.guarded.encrypting inputs).journal = newer' ++ fresh.journal ∧
      List.Forall₂ Event.Alike newer newer' ∧ newer.any (Event.starts .data) := by
  intro along upgraded fresh inputs
  have hplain : [Input.bytes (Sample.secondThought ++ along)].flatMap Input.signals =
      Sample.secondThought.map .byte ++ along.map .byte := by
    decide +kernel
  have hhandshake : ((start Sample.guarded (.start ⟨1⟩ "mx" Sample.place Sample.place)
      Sample.office).heedAll Sample.guarded (Sample.secondThought.map .byte)).phase =
        .handshake := by
    decide +kernel
  have hopen : fresh.phase ≠ .closed := by decide +kernel
  obtain ⟨newer, newer', hnewer, hnewer', halike, -⟩ :=
    run_upgraded_alike_fresh Sample.guarded rfl rfl rfl (Sample.guarded_keeps _)
      Sample.guarded_respects ⟨1⟩ ⟨2⟩ "mx" Sample.place Sample.place Sample.office Sample.office _
      (Sample.secondThought.map .byte) along Sample.agreement hplain hhandshake hopen inputs
  refine ⟨newer, newer', hnewer, hnewer', halike, ?_⟩
  have hboth : (newer ++ upgraded.journal).countP (Event.starts .data) = 1 := by
    rw [← hnewer]
    decide +kernel
  have hbefore : upgraded.journal.countP (Event.starts .data) = 0 := by decide +kernel
  rw [List.countP_append, hbefore] at hboth
  rw [List.any_eq_true, ← List.countP_pos_iff]
  omega

end Turn
end MailIntake
