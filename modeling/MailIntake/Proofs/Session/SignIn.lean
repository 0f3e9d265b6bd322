import MailIntake.Proofs.Sasl
import MailIntake.Proofs.Session.Credentials
import MailIntake.Proofs.Session.SentLine
import MailIntake.Proofs.Session.TurnedDown
/-!
Signing in.  The same credentials can be sent in several ways, in one line or in up to three; all
of them end alike, and as the table of users says (`exchange_decided`).
-/
namespace MailIntake

open Text

universe u

/-- Texts of printable ASCII characters. -/
def IsPrintable (text : String) : Prop :=
  ∀ c ∈ text.toList, 0x20 ≤ c.toNat ∧ c.toNat < 0x7F

instance (text : String) : Decidable (IsPrintable text) :=
  List.decidableBAll _ text.toList

theorem IsPrintable.append {front back : String} (hfront : IsPrintable front)
    (hback : IsPrintable back) : IsPrintable (front ++ back) := by
  rw [IsPrintable, String.toList_append]
  exact List.forall_mem_append.mpr ⟨hfront, hback⟩

/-- Line breaks are not printable. -/
theorem IsPrintable.isUnbroken {text : String} (h : IsPrintable text) : IsUnbroken text := by
  intro c hc
  obtain ⟨hlow, -⟩ := h c hc
  constructor
  · rintro rfl
    exact absurd hlow (by decide)
  · rintro rfl
    exact absurd hlow (by decide)

namespace Sasl

theorem isPrintable_encodeText (text : String) : IsPrintable (encodeText text) := by
  intro c hc
  obtain ⟨hlow, hhigh⟩ := toNat_of_isBase64 (isBase64_of_mem_encodeText hc)
  omega

theorem isBlank_encodeText (text : String) :
    ∀ c ∈ (encodeText text).toList, Ascii.isBlank c = false := by
  intro c hc
  obtain ⟨hlow, -⟩ := toNat_of_isBase64 (isBase64_of_mem_encodeText hc)
  by_contra hblank
  have hfew : c = ' ' ∨ c = '\t' ∨ c = '\n' ∨ c = '\x0c' ∨ c = '\r' := by
    rw [Bool.not_eq_false, Ascii.isBlank] at hblank
    simpa only [Bool.or_eq_true, beq_iff_eq, or_assoc] using hblank
  rcases hfew with rfl | rfl | rfl | rfl | rfl <;> exact absurd hlow (by decide)

/-- Something is encoded in four characters at least. -/
theorem four_le_length_encodeText {text : String} (h : text ≠ "") :
    4 ≤ (encodeText text).toList.length := by
  rw [encodeText, String.toList_ofList]
  apply Base64.four_le_length_encode
  intro hnil
  exact h (Utf8.encode_injective (hnil.trans rfl))

theorem encodePlain_ne (c : PlainCredentials) : encodePlain c ≠ "" ∧ encodePlain c ≠ "=" := by
  have hlength : 4 ≤ (encodePlain c).toList.length := by
    apply four_le_length_encodeText
    intro hempty
    have hmem : '\x00' ∈ (c.authzid ++ "\x00" ++ c.username ++ "\x00" ++ c.password).toList := by
      simp
    rw [hempty] at hmem
    cases hmem
  constructor
  · intro heq
    exact absurd (heq ▸ hlength) (by decide)
  · intro heq
    exact absurd (heq ▸ hlength) (by decide)

/-- The ways to send credentials: in one response along with the command or behind it, where a
lone equals sign stands for no response, and in two responses likewise. -/
def exchanges (c : PlainCredentials) : List (List String) :=
  [["AUTH PLAIN " ++ encodePlain c],
    ["AUTH PLAIN", encodePlain c],
    ["AUTH PLAIN =", encodePlain c],
    ["AUTH LOGIN " ++ encodeLogin c.username, encodeLogin c.password],
    ["AUTH LOGIN", encodeLogin c.username, encodeLogin c.password]]

end Sasl

namespace Turn

variable {W : Type u} {service : Service W} {t before after : Turn W}

theorem receive_response {step : AuthStep} {reader : LineReader} {line : List UInt8} {text : String}
    (hphase : t.phase = .response step reader) (hline : reader.feed line = .line (.text text) []) :
    t.receive service line = (t.countRead line.length).takeResponse service step (.text text) := by
  rw [receive_of_response service hphase hline, receive]
  rfl

/-- Lines have been exchanged, and nothing has come of it yet. -/
structure Unmoved (before after : Turn W) : Prop where
  transaction : after.transaction = before.transaction
  world : after.world = before.world
  commands : after.commands = before.commands

/-- An exchange has ended, and the next command is awaited; the credentials were accepted and are
known from now on, or they were not and karma is lowered. -/
structure Decided (users : Users) (username password : String) (before after : Turn W) : Prop where
  phase : after.phase = .command {}
  commands : after.commands = before.commands + 1
  world : after.world = before.world
  accepted : Store.look username users = some password →
    lastReply? after.journal = some ⟨235, "OK, you are now authenticated"⟩ ∧
    after.transaction = { before.transaction with peer :=
      { before.transaction.peer with username := some username, password := some password } }
  refused : Store.look username users ≠ some password →
    lastReply? after.journal = some ⟨535, "5.7.8 Authentication credentials invalid"⟩ ∧
    after.transaction.peer = before.transaction.peer ∧
    after.transaction.karma = before.transaction.karma - 1 ∧
    after.transaction = before.transaction.penalize Karma.authenticationFailed

variable {users : Users} {username password : String}

theorem Decided.of_unmoved {mid : Turn W} (hfront : before.Unmoved mid)
    (hback : mid.Decided users username password after) :
    before.Decided users username password after where
  phase := hback.phase
  commands := hback.commands.trans (congrArg (· + 1) hfront.commands)
  world := hback.world.trans hfront.world
  accepted := by
    intro hlook
    rw [← hfront.transaction]
    exact hback.accepted hlook
  refused := by
    intro hlook
    rw [← hfront.transaction]
    exact hback.refused hlook

/-- Exchanges with the same credentials cannot be told apart behind their end. -/
theorem Decided.alike {other : Turn W} (h : before.Decided users username password after)
    (hother : before.Decided users username password other) :
    after.transaction = other.transaction ∧ after.world = other.world ∧ after.phase = other.phase ∧
      after.commands = other.commands ∧ lastReply? after.journal = lastReply? other.journal := by
  have hrest : after.world = other.world ∧ after.phase = other.phase ∧
      after.commands = other.commands :=
    ⟨h.world.trans hother.world.symm, h.phase.trans hother.phase.symm,
      h.commands.trans hother.commands.symm⟩
  by_cases hlook : Store.look username users = some password
  · obtain ⟨hreply, htransaction⟩ := h.accepted hlook
    obtain ⟨hsame, hequal⟩ := hother.accepted hlook
    exact ⟨htransaction.trans hequal.symm, hrest.1, hrest.2.1, hrest.2.2, hreply.trans hsame.symm⟩
  · obtain ⟨hreply, -, -, htransaction⟩ := h.refused hlook
    obtain ⟨hsame, -, -, hequal⟩ := hother.refused hlook
    exact ⟨htransaction.trans hequal.symm, hrest.1, hrest.2.1, hrest.2.2, hreply.trans hsame.symm⟩

theorem judge_decides (hservice : service.authenticator = some users.authenticator) :
    t.Decided users username password (t.judge service username password) := by
  by_cases hlook : Store.look username users = some password
  · have haccepts : users.accepts username password = true := Users.accepts_iff.mpr hlook
    have hjudge : t.judge service username password =
        (((t.note (.authenticated username password none)).mapPeer fun p =>
          { p with username := some username, password := some password }).reply 235
            "OK, you are now authenticated").conclude := by
      simp only [judge, hservice, Users.authenticator, haccepts, if_true]
    rw [hjudge]
    exact ⟨rfl, rfl, rfl, fun _ => ⟨by simp, by simp⟩, fun hnot => absurd hlook hnot⟩
  · have haccepts : users.accepts username password = false := by
      rw [← Bool.not_eq_true, Users.accepts_iff]
      exact hlook
    have hjudge : t.judge service username password =
        (((t.note (.authenticated username password (some (.reject Users.mismatch)))).penalize
          Karma.authenticationFailed).reply 535
            "5.7.8 Authentication credentials invalid").conclude := by
      simp only [judge, hservice, Users.authenticator, haccepts, Bool.false_eq_true, if_false]
      rfl
    rw [hjudge]
    refine ⟨rfl, rfl, rfl, fun hyes => absurd hyes hlook, fun _ => ⟨by simp, ?_, ?_, ?_⟩⟩
    · rfl
    · rfl
    · simp

/-- The next response of the exchange is awaited. -/
structure Challenged (step : AuthStep) (before after : Turn W) : Prop where
  unmoved : before.Unmoved after
  phase : after.phase = .response step {}

theorem Unmoved.countRead (h : before.Unmoved t) (bytes : Nat) :
    before.Unmoved (t.countRead bytes) where
  transaction := h.transaction
  world := h.world
  commands := h.commands

theorem Unmoved.note (h : before.Unmoved t) (e : Event) : before.Unmoved (t.note e) where
  transaction := h.transaction
  world := h.world
  commands := h.commands

theorem challenge_commands (step : AuthStep) : (t.challenge step).commands = t.commands := by
  simp only [challenge, reply_commands]

theorem Unmoved.challenge (h : before.Unmoved t) (step : AuthStep) :
    before.Challenged step (t.challenge step) := by
  refine ⟨⟨?_, ?_, ?_⟩, challenge_phase t step⟩
  · rw [challenge_transaction, h.transaction]
  · rw [challenge_world, h.world]
  · rw [challenge_commands, h.commands]

/-- No encoded text is taken for the star that cancels an exchange. -/
theorem takeResponse_encodeText (step : AuthStep) (text : String) :
    t.takeResponse service step (.text (Sasl.encodeText text)) =
      t.respond service step (Sasl.encodeText text) := by
  have hstar : Sasl.encodeText text ≠ "*" := by
    intro heq
    have hbase64 : ∀ c ∈ "*".toList, Base64.isBase64 c := by
      rw [← heq]
      exact fun c hc => Sasl.isBase64_of_mem_encodeText hc
    exact absurd (hbase64 '*' (by decide)) (by decide)
  rw [takeResponse]
  simp only [Sasl.trim_encodeText, if_neg hstar]

/-- A response to a challenge. -/
theorem Challenged.receive {step : AuthStep} (h : before.Challenged step t) {text : String}
    (hfits : (lineBytes (Sasl.encodeText text)).length ≤ maxLineLength) :
    ∃ mid : Turn W, before.Unmoved mid ∧
      t.receive service (lineBytes (Sasl.encodeText text)) =
        mid.respond service step (Sasl.encodeText text) := by
  have hfeed := LineReader.feed_lineBytes (Sasl.isPrintable_encodeText text).isUnbroken hfits
  refine ⟨t.countRead (lineBytes (Sasl.encodeText text)).length, h.unmoved.countRead _, ?_⟩
  rw [receive_response h.phase hfeed, takeResponse_encodeText]

section Responses

variable (hservice : service.authenticator = some users.authenticator)

include hservice in
theorem respond_credentials {c : Sasl.PlainCredentials} (hc : c.Sendable) (h : before.Unmoved t) :
    before.Decided users c.username c.password
      (t.respond service .credentials (Sasl.encodePlain c)) := by
  simp only [respond, Sasl.decodePlain_encodePlain hc]
  exact (judge_decides hservice).of_unmoved h

theorem respond_username (h : before.Unmoved t) (username : String) :
    before.Challenged (.password username)
      (t.respond service .username (Sasl.encodeLogin username)) := by
  simp only [respond, Sasl.decodeLogin_encodeLogin]
  exact h.challenge _

include hservice in
theorem respond_password (h : before.Unmoved t) (username password : String) :
    before.Decided users username password
      (t.respond service (.password username) (Sasl.encodeLogin password)) := by
  simp only [respond, Sasl.decodeLogin_encodeLogin]
  exact (judge_decides hservice).of_unmoved h

include hservice in
theorem Challenged.takesCredentials {c : Sasl.PlainCredentials} (hc : c.Sendable)
    (h : before.Challenged .credentials t)
    (hfits : (lineBytes (Sasl.encodePlain c)).length ≤ maxLineLength) :
    before.Decided users c.username c.password
      (t.receive service (lineBytes (Sasl.encodePlain c))) := by
  obtain ⟨mid, hmid, hreceive⟩ := h.receive hfits
  rw [Sasl.encodePlain, hreceive]
  exact respond_credentials hservice hc hmid

theorem Challenged.takesUsername (h : before.Challenged .username t) {username : String}
    (hfits : (lineBytes (Sasl.encodeLogin username)).length ≤ maxLineLength) :
    before.Challenged (.password username)
      (t.receive service (lineBytes (Sasl.encodeLogin username))) := by
  obtain ⟨mid, hmid, hreceive⟩ := h.receive hfits
  rw [Sasl.encodeLogin, hreceive]
  exact respond_username hmid username

include hservice in
theorem Challenged.takesPassword (h : before.Challenged (.password username) t) {password : String}
    (hfits : (lineBytes (Sasl.encodeLogin password)).length ≤ maxLineLength) :
    before.Decided users username password
      (t.receive service (lineBytes (Sasl.encodeLogin password))) := by
  obtain ⟨mid, hmid, hreceive⟩ := h.receive hfits
  rw [Sasl.encodeLogin, hreceive]
  exact respond_password hservice hmid username password

end Responses

/-- Sessions in which a client may sign in: greeted and encrypted, with nobody signed in and no
message at hand, between two commands. -/
structure MaySignIn (t : Turn W) : Prop where
  phase : t.phase = .command {}
  greeted : t.transaction.peer.helo.isSome
  encrypted : t.transaction.peer.encrypted
  stranger : t.transaction.peer.username = none
  noSender : t.transaction.envelope.sender = none

theorem MaySignIn.authObstacle (h : t.MaySignIn) : authObstacle t.transaction = none := by
  have hgreeted : ¬t.transaction.peer.helo.isNone := by
    simpa using Option.isSome_iff_ne_none.mp h.greeted
  have hencrypted : ¬¬t.transaction.peer.encrypted := not_not_intro h.encrypted
  have hstranger : ¬t.transaction.isAuthenticated := by
    simp [Transaction.isAuthenticated, h.stranger]
  have hsender : ¬t.transaction.envelope.sender.isSome := by simp [h.noSender]
  rw [Turn.authObstacle, if_neg hgreeted, if_neg hencrypted, if_neg hstranger, if_neg hsender]

/-- An AUTH line begins the exchange that it names. -/
theorem MaySignIn.receive (h : t.MaySignIn)
    (hservice : service.authenticator = some users.authenticator)
    {text name : String} {rest : List String} {mechanism : Sasl.Mechanism}
    (hprintable : IsPrintable text) (hfits : (lineBytes text).length ≤ maxLineLength)
    (hwords : Ascii.words text = "AUTH" :: name :: rest) (hcolon : name.toList.getLast? ≠ some ':')
    (hname : Sasl.Mechanism.parse name = .ok mechanism) :
    ∃ mid : Turn W, t.Unmoved mid ∧
      t.receive service (lineBytes text) = mid.exchange service mechanism rest.head? := by
  have hfeed := LineReader.feed_lineBytes hprintable.isUnbroken hfits
  have hglue : CommandLine.glueValue ("AUTH" :: name :: rest) = "AUTH" :: name :: rest := by
    cases rest with
    | nil => rfl
    | cons value more => rw [CommandLine.glueValue, if_neg hcolon]
  have hfields : (CommandLine.parse text).fields = "AUTH" :: name :: rest := by
    rw [CommandLine.parse, hwords]
    exact hglue
  have hverb : (CommandLine.parse text).verb? = some .auth := by
    rw [CommandLine.parse, hwords]
    exact (by decide : CommandLine.Verb.ofAction? (Ascii.upper "AUTH") = some .auth)
  have hargument : (CommandLine.parse text).argument? = some name := by
    rw [CommandLine.argument?, hfields]
    rfl
  have hinitial : (CommandLine.parse text).fields[2]? = rest.head? := by
    rw [hfields, List.head?_eq_getElem?]
    rfl
  refine ⟨(t.countRead (lineBytes text).length).note (.command (CommandLine.parse text)), ?_, ?_⟩
  · exact (Unmoved.countRead ⟨rfl, rfl, rfl⟩ _).note _
  · have hauth : ¬service.authenticator.isNone := by simp [hservice]
    rw [receive_line service h.phase hfeed]
    simp only [takeLine, dispatch, hverb, execute, auth, if_neg hauth, hargument, note_transaction,
      countRead_transaction, h.authObstacle, hname, hinitial]

/-- The words of an AUTH line with a response. -/
theorem words_initial {start name response : String}
    (hstart : start.toList = "AUTH ".toList ++ name.toList ++ [' '])
    (hname : IsWord name) (hresponse : IsWord response) :
    Ascii.words (start ++ response) = ["AUTH", name, response] := by
  apply CommandLine.words_eq (List.cons_ne_nil _ _)
  · intro word hword
    simp only [List.mem_cons, List.not_mem_nil, or_false] at hword
    rcases hword with rfl | rfl | rfl
    · decide
    · exact hname
    · exact hresponse
  · rw [String.toList_append, hstart]
    simp [joinWith]

section Exchange

variable {c : Sasl.PlainCredentials} (hservice : service.authenticator = some users.authenticator)
  (hmay : t.MaySignIn)

include hservice hmay

/-- PLAIN without a response, or with the sign that stands for none. -/
theorem MaySignIn.plain_challenged {line : String}
    (hline : line = "AUTH PLAIN" ∨ line = "AUTH PLAIN =")
    (hfits : (lineBytes line).length ≤ maxLineLength) :
    t.Challenged .credentials (t.receive service (lineBytes line)) := by
  have hname : Sasl.Mechanism.parse "PLAIN" = .ok .plain := by decide
  rcases hline with rfl | rfl
  · have hwords : Ascii.words "AUTH PLAIN" = ["AUTH", "PLAIN"] := by decide +kernel
    obtain ⟨mid, hmid, hreceive⟩ :=
      hmay.receive hservice (by decide) hfits hwords (by decide) hname
    rw [hreceive]
    exact hmid.challenge .credentials
  · have hwords : Ascii.words "AUTH PLAIN =" = ["AUTH", "PLAIN", "="] := by decide +kernel
    obtain ⟨mid, hmid, hreceive⟩ :=
      hmay.receive hservice (by decide) hfits hwords (by decide) hname
    rw [hreceive, List.head?_cons, exchange]
    simp only [if_true]
    exact hmid.challenge .credentials

/-- LOGIN without a user name. -/
theorem MaySignIn.login_challenged (hfits : (lineBytes "AUTH LOGIN").length ≤ maxLineLength) :
    t.Challenged .username (t.receive service (lineBytes "AUTH LOGIN")) := by
  have hwords : Ascii.words "AUTH LOGIN" = ["AUTH", "LOGIN"] := by decide +kernel
  have hname : Sasl.Mechanism.parse "LOGIN" = .ok .login := by decide
  obtain ⟨mid, hmid, hreceive⟩ :=
    hmay.receive hservice (by decide) hfits hwords (by decide) hname
  rw [hreceive]
  exact hmid.challenge .username

/-- PLAIN with the response in the command line. -/
theorem MaySignIn.plain_decides (hsendable : c.Sendable)
    (hfits : (lineBytes ("AUTH PLAIN " ++ Sasl.encodePlain c)).length ≤ maxLineLength) :
    t.Decided users c.username c.password
      (t.receive service (lineBytes ("AUTH PLAIN " ++ Sasl.encodePlain c))) := by
  obtain ⟨hnonempty, hequals⟩ := Sasl.encodePlain_ne c
  have hprintable : IsPrintable ("AUTH PLAIN " ++ Sasl.encodePlain c) :=
    IsPrintable.append (by decide) (Sasl.isPrintable_encodeText _)
  have hwords : Ascii.words ("AUTH PLAIN " ++ Sasl.encodePlain c) =
      ["AUTH", "PLAIN", Sasl.encodePlain c] :=
    words_initial (by decide) (by decide) ⟨hnonempty, Sasl.isBlank_encodeText _⟩
  have hname : Sasl.Mechanism.parse "PLAIN" = .ok .plain := by decide
  obtain ⟨mid, hmid, hreceive⟩ :=
    hmay.receive hservice hprintable hfits hwords (by decide) hname
  rw [hreceive, List.head?_cons, exchange]
  simp only [if_neg hequals]
  exact respond_credentials hservice hsendable hmid

/-- LOGIN with the user name in the command line. -/
theorem MaySignIn.login_named {username : String} (hne : username ≠ "")
    (hfits : (lineBytes ("AUTH LOGIN " ++ Sasl.encodeLogin username)).length ≤ maxLineLength) :
    t.Challenged (.password username)
      (t.receive service (lineBytes ("AUTH LOGIN " ++ Sasl.encodeLogin username))) := by
  have hlength : 4 ≤ (Sasl.encodeLogin username).toList.length :=
    Sasl.four_le_length_encodeText hne
  have hnonempty : Sasl.encodeLogin username ≠ "" := by
    intro heq
    exact absurd (heq ▸ hlength) (by decide)
  have hprintable : IsPrintable ("AUTH LOGIN " ++ Sasl.encodeLogin username) :=
    IsPrintable.append (by decide) (Sasl.isPrintable_encodeText _)
  have hwords : Ascii.words ("AUTH LOGIN " ++ Sasl.encodeLogin username) =
      ["AUTH", "LOGIN", Sasl.encodeLogin username] :=
    words_initial (by decide) (by decide) ⟨hnonempty, Sasl.isBlank_encodeText _⟩
  have hname : Sasl.Mechanism.parse "LOGIN" = .ok .login := by decide
  obtain ⟨mid, hmid, hreceive⟩ :=
    hmay.receive hservice hprintable hfits hwords (by decide) hname
  rw [hreceive, List.head?_cons, exchange]
  exact respond_username hmid username

end Exchange

/-- However credentials are sent in an exchange, and however its bytes arrive, it ends with the
next command awaited and one command more carried out.  If the table has exactly this password for
the user, the client hears 235 and is known by these credentials, and otherwise it hears 535, nobody
is signed in, and karma is lowered by one. -/
theorem exchange_decided (service : Service W) (users : Users) (t : Turn W)
    (c : Sasl.PlainCredentials)
    (hservice : service.authenticator = some users.authenticator) (hmay : t.MaySignIn)
    (hsendable : c.Sendable) :
    ∀ lines ∈ Sasl.exchanges c, (∀ line ∈ lines, (lineBytes line).length ≤ maxLineLength) →
      ∀ chunks : List (List UInt8), chunks.flatten = lines.flatMap lineBytes →
        t.Decided users c.username c.password (t.run service (chunks.map .bytes)) := by
  intro lines hlines hfits chunks hchunks
  rw [run_bytes, hchunks]
  simp only [Sasl.exchanges, List.mem_cons, List.not_mem_nil, or_false] at hlines
  rcases hlines with rfl | rfl | rfl | rfl | rfl <;>
    obtain ⟨hline, hmore⟩ := List.forall_mem_cons.mp hfits
  · rw [List.flatMap_singleton]
    exact hmay.plain_decides hservice hsendable hline
  · rw [List.flatMap_cons, List.flatMap_singleton, receive_append]
    apply (hmay.plain_challenged hservice (.inl rfl) hline).takesCredentials hservice hsendable
    exact hmore _ List.mem_cons_self
  · rw [List.flatMap_cons, List.flatMap_singleton, receive_append]
    apply (hmay.plain_challenged hservice (.inr rfl) hline).takesCredentials hservice hsendable
    exact hmore _ List.mem_cons_self
  · rw [List.flatMap_cons, List.flatMap_singleton, receive_append]
    apply (hmay.login_named hservice hsendable.username_ne hline).takesPassword hservice
    exact hmore _ List.mem_cons_self
  · obtain ⟨hname, hlast⟩ := List.forall_mem_cons.mp hmore
    rw [List.flatMap_cons, List.flatMap_cons, List.flatMap_singleton, receive_append,
      receive_append]
    apply ((hmay.login_challenged hservice hline).takesUsername hname).takesPassword hservice
    exact hlast _ List.mem_cons_self

end Turn

namespace Sample

/-- A connection to a service with one user on which the client has only greeted. -/
def introduced : Turn Office :=
  joined.run members [.handshake (some agreement), .bytes (lineBytes "EHLO c")]

/-- The credentials of the user. -/
def known : Sasl.PlainCredentials := ⟨"", "u", "p"⟩

/-- The same without a password. -/
def mistaken : Sasl.PlainCredentials := ⟨"", "u", ""⟩

theorem introduced_maySignIn : introduced.MaySignIn where
  phase := by decide +kernel
  greeted := by decide +kernel
  encrypted := by decide +kernel
  stranger := by decide +kernel
  noSender := by decide +kernel

end Sample

namespace Turn

theorem exchange_decided_members :
    (∀ lines ∈ Sasl.exchanges Sample.known,
      Sample.introduced.Decided [("u", "p")] "u" "p"
        (Sample.introduced.run Sample.members ((lines.map lineBytes).map .bytes))) ∧
    ∀ lines ∈ Sasl.exchanges Sample.mistaken,
      Sample.introduced.Decided [("u", "p")] "u" ""
        (Sample.introduced.run Sample.members ((lines.map lineBytes).map .bytes)) := by
  have hmay := Sample.introduced_maySignIn
  refine ⟨fun lines hlines => ?_, fun lines hlines => ?_⟩
  · refine exchange_decided Sample.members [("u", "p")] Sample.introduced Sample.known rfl hmay
      ⟨by decide, by decide, by decide, by decide⟩ lines hlines ?_ _ List.flatMap_def.symm
    revert lines
    decide +kernel
  · refine exchange_decided Sample.members [("u", "p")] Sample.introduced Sample.mistaken rfl hmay
      ⟨by decide, by decide, by decide, by decide⟩ lines hlines ?_ _ List.flatMap_def.symm
    revert lines
    decide +kernel

end Turn
end MailIntake
