import MailIntake.Proofs.Session.SentLine
import MailIntake.Proofs.Session.Whereabouts
/-!
What a trusted client says of the client behind it, and what of it is heard.  The words of an
XCLIENT line are its arguments, and the session does what they say, unless the first of several ends
in a colon: then the tokenizer puts the second one behind it, as it does with a path
(`xclient_attributes_heeded`).
-/
namespace MailIntake

open Text

universe u

namespace CommandLine

def xclientLine (arguments : List String) : String :=
  "XCLIENT " ++ spaced arguments

/-- The first of several arguments ends in a colon. -/
def TakesNext (arguments : List String) : Prop :=
  ∃ first second rest, arguments = first :: second :: rest ∧ first.toList.getLast? = some ':'

theorem words_xclientLine {arguments : List String} (hne : arguments ≠ [])
    (hwords : ∀ argument ∈ arguments, IsWord argument) :
    Ascii.words (xclientLine arguments) = "XCLIENT" :: arguments := by
  have hsome : arguments.map String.toList ≠ [] := by simpa using hne
  apply words_eq (List.cons_ne_nil _ _) (List.forall_mem_cons.mpr ⟨by decide, hwords⟩)
  rw [xclientLine, spaced, List.map_cons, joinWith_cons_of_ne_nil _ _ hsome]
  simp

theorem isUnbroken_xclientLine {arguments : List String}
    (hwords : ∀ argument ∈ arguments, IsWord argument) : IsUnbroken (xclientLine arguments) := by
  refine isUnbroken_append.mpr ⟨by decide, fun c hc => ?_⟩
  rw [spaced, String.toList_ofList] at hc
  rcases mem_joinWith hc with hspace | ⟨piece, hpiece, hc⟩
  · rw [List.mem_singleton.mp hspace]
    decide
  · obtain ⟨argument, hargument, rfl⟩ := List.mem_map.mp hpiece
    exact isUnbroken_of_not_blank (hwords argument hargument).2 c hc

/-- The words behind a verb are its arguments, but a trailing colon takes the next word. -/
theorem arguments_ofWords (verb : String) (arguments : List String) :
    (¬ TakesNext arguments → (ofWords (verb :: arguments)).arguments = arguments) ∧
    ∀ first second rest, arguments = first :: second :: rest →
      first.toList.getLast? = some ':' →
        (ofWords (verb :: arguments)).arguments = (first ++ second) :: rest := by
  constructor
  · intro hnext
    match arguments with
    | [] => rfl
    | [only] => rfl
    | first :: second :: rest =>
        have hends : ¬ first.toList.getLast? = some ':' := fun hends =>
          hnext ⟨first, second, rest, rfl, hends⟩
        simp only [CommandLine.arguments, ofWords, glueValue, if_neg hends, List.drop_succ_cons,
          List.drop_zero]
  · rintro first second rest rfl hends
    simp only [CommandLine.arguments, ofWords, glueValue, if_pos hends, List.drop_succ_cons,
      List.drop_zero]

theorem arguments_eq_iff (verb : String) (arguments : List String) :
    (ofWords (verb :: arguments)).arguments = arguments ↔ ¬ TakesNext arguments := by
  obtain ⟨hkept, htaken⟩ := arguments_ofWords verb arguments
  refine ⟨?_, hkept⟩
  rintro hsame ⟨first, second, rest, rfl, hends⟩
  -- One word less is left than there were.
  rw [htaken first second rest rfl hends] at hsame
  simpa using congrArg List.length hsame

end CommandLine

/-- Attributes make one client of another: the address if both its parts are given, with the names
that are looked up for it, and each of name, user name and protocol if it is given. -/
structure SpeaksFor {W : Type u} (service : Service W) (attributes : XClientAttributes)
    (before after : Peer) : Prop where
  address : ∀ ip port, attributes.addr = some ip → attributes.port = some port →
    after.remoteAddr = ⟨ip, port⟩ ∧ after.ptrs = Turn.namesOf service ip
  partly : attributes.addr = none ∨ attributes.port = none →
    after.remoteAddr = before.remoteAddr ∧ after.ptrs = before.ptrs
  helo : after.helo = attributes.helo.or before.helo
  username : after.username = attributes.login.or before.username
  protocol : after.protocol = (attributes.proto.map Turn.protocolOf).getD before.protocol
  others : { before with
    remoteAddr := after.remoteAddr
    ptrs := after.ptrs
    helo := after.helo
    username := after.username
    protocol := after.protocol } = after

/-- What a session does with attributes, whether they could be read or not: it answers once, and it
changes nothing that they do not ask for. -/
structure Heeds {W : Type u} (service : Service W) (line : CommandLine)
    (attributes : Except XClientError XClientAttributes) (before after : Turn W) : Prop where
  phase : after.phase = .command {}
  commands : after.commands = before.commands + 1
  world : after.world = before.world
  refused : ∀ e, attributes = .error e →
    after.journal = .replied ⟨502, e.message⟩ :: .command line :: before.journal ∧
      after.transaction = before.transaction.penalize Karma.badParameter
  taken : ∀ a, attributes = .ok a →
    after.journal = .replied ⟨220, service.hostname ++ " " ++ service.settings.banner⟩ ::
      .command line :: before.journal ∧
    SpeaksFor service a before.transaction.peer after.transaction.peer ∧
      after.transaction = { before.transaction with peer := after.transaction.peer }

namespace Turn

variable {W : Type u} {service : Service W} {t : Turn W}

/-- Attributes that are taken over change the client as they say. -/
theorem speaksFor_moveTo (attributes : XClientAttributes) :
    SpeaksFor service attributes t.transaction.peer
      (withAttributes attributes (t.moveTo service attributes).transaction.peer) := by
  cases haddr : attributes.addr with
  | none => constructor <;> simp [moveTo, withAttributes, haddr, Option.orElse_eq_or]
  | some ip =>
      cases hport : attributes.port with
      | none => constructor <;> simp [moveTo, withAttributes, haddr, hport, Option.orElse_eq_or]
      | some port =>
          constructor <;>
            simp [moveTo, withAttributes, lookUpNames, mapPeer, mapTransaction, haddr, hport,
              Option.orElse_eq_or]

/-- Nothing but the client is moved. -/
theorem moveTo_eq (attributes : XClientAttributes) : t.moveTo service attributes =
    t.mapPeer fun _ => (t.moveTo service attributes).transaction.peer := by
  simp only [moveTo]
  split <;> rfl

theorem xclient_heeds_parse (line : CommandLine)
    (henabled : service.settings.enableXclient = true) :
    Heeds service line (XClientAttributes.parse line.arguments) t
      ((t.note (.command line)).xclient service line) := by
  simp only [xclient, henabled, not_true_eq_false, if_false]
  cases hparse : XClientAttributes.parse line.arguments with
  | error e =>
      refine ⟨rfl, rfl, rfl, fun e' he => ?_, fun a ha => ?_⟩
      · cases he
        exact ⟨rfl, rfl⟩
      · cases ha
  | ok attributes =>
      have hspeaks : SpeaksFor service attributes t.transaction.peer (withAttributes attributes
          ((t.note (.command line)).moveTo service attributes).transaction.peer) :=
        speaksFor_moveTo (t := t.note (.command line)) attributes
      simp only
      rw [moveTo_eq]
      refine ⟨rfl, rfl, rfl, fun e he => ?_, fun a ha => ?_⟩
      · cases he
      · cases ha
        exact ⟨rfl, hspeaks, rfl⟩

theorem heeds_of_countRead {line : CommandLine} {bytes : Nat} {after : Turn W}
    {attributes : Except XClientError XClientAttributes}
    (h : Heeds service line attributes (t.countRead bytes) after) :
    Heeds service line attributes t after where
  phase := h.phase
  commands := h.commands
  world := h.world
  refused := h.refused
  taken := h.taken

/-- The arguments of an XCLIENT line are the words that the client wrote exactly if the first of
several does not end in a colon; if it does, the second one is put behind it.  A session in which
trusted clients may speak does and answers what the attributes in its arguments ask for, however the
bytes of the line arrive, and so what those in the words of the client do unless one is put behind
another. -/
theorem xclient_attributes_heeded (arguments : List String) (hne : arguments ≠ [])
    (hwords : ∀ argument ∈ arguments, IsWord argument) :
    let text := CommandLine.xclientLine arguments
    let line := CommandLine.parse text
    (line.arguments = arguments ↔ ¬ CommandLine.TakesNext arguments) ∧
    (∀ first second rest, arguments = first :: second :: rest →
      first.toList.getLast? = some ':' → line.arguments = (first ++ second) :: rest) ∧
    ∀ {W : Type u} (service : Service W) (t : Turn W) (chunks : List (List UInt8)),
      service.settings.enableXclient = true → t.phase = .command {} →
        chunks.flatten = lineBytes text → (lineBytes text).length ≤ maxLineLength →
          Heeds service line (XClientAttributes.parse line.arguments) t
              (t.run service (chunks.map .bytes)) ∧
            (¬ CommandLine.TakesNext arguments →
              Heeds service line (XClientAttributes.parse arguments) t
                (t.run service (chunks.map .bytes))) := by
  intro text line
  have hline : line = CommandLine.ofWords ("XCLIENT" :: arguments) := by
    rw [← CommandLine.words_xclientLine hne hwords]
    rfl
  have hkept : line.arguments = arguments ↔ ¬ CommandLine.TakesNext arguments := by
    rw [hline]
    exact CommandLine.arguments_eq_iff "XCLIENT" arguments
  refine ⟨hkept, ?_, ?_⟩
  · rw [hline]
    exact (CommandLine.arguments_ofWords "XCLIENT" arguments).2
  · intro W service t chunks henabled hphase hchunks hfits
    have hverb : line.verb? = some .xclient := by
      rw [hline]
      exact (by decide : CommandLine.Verb.ofAction? (Ascii.upper "XCLIENT") = some .xclient)
    have hheeds : Heeds service line (XClientAttributes.parse line.arguments) t
        (t.run service (chunks.map .bytes)) := by
      rw [run_command hphase (CommandLine.isUnbroken_xclientLine hwords) hfits hchunks hverb]
      exact heeds_of_countRead (xclient_heeds_parse line henabled)
    refine ⟨hheeds, fun hnext => ?_⟩
    rwa [hkept.mpr hnext] at hheeds

/-- A trusted client says where the client behind it is. -/
theorem xclient_attributes_heeded_address :
    let arguments := ["ADDR=192.0.2.2", "PORT=25"]
    let start := Turn.start Sample.trusting (.start ⟨1⟩ "mx" Sample.place Sample.place)
      Sample.office
    let t := start.run Sample.trusting [.bytes (lineBytes (CommandLine.xclientLine arguments))]
    (CommandLine.parse (CommandLine.xclientLine arguments)).arguments = arguments ∧
      t.transaction.peer.remoteAddr = ⟨Sample.address 2, 25⟩ ∧
      t.transaction.peer.ptrs = ["two.test"] := by
  intro arguments start t
  obtain ⟨hkept, -, hsession⟩ := xclient_attributes_heeded arguments (by decide) (by decide)
  have hnext : ¬ CommandLine.TakesNext arguments := hkept.mp (by decide +kernel)
  have hheeds := (hsession Sample.trusting start
    [lineBytes (CommandLine.xclientLine arguments)] rfl (by decide +kernel) (by simp)
      (by decide +kernel)).2 hnext
  have hparse : XClientAttributes.parse arguments =
      .ok { addr := some (Sample.address 2), port := some 25 } := by
    decide +kernel
  exact ⟨hkept.mpr hnext, (hheeds.taken _ hparse).2.1.address _ _ rfl rfl⟩

/-- An address that ends in colons takes the port to itself, and what could have been read is turned
down. -/
theorem xclient_address_takes_port :
    let arguments := ["ADDR=2001:db8::", "PORT=25"]
    let start := Turn.start Sample.trusting (.start ⟨1⟩ "mx" Sample.place Sample.place)
      Sample.office
    let t := start.run Sample.trusting [.bytes (lineBytes (CommandLine.xclientLine arguments))]
    (∀ argument ∈ arguments, IsWord argument) ∧
      (CommandLine.parse (CommandLine.xclientLine arguments)).arguments =
        ["ADDR=2001:db8::PORT=25"] ∧
      (XClientAttributes.parse arguments).toOption =
        some { addr := Address.Ip.parse? "2001:db8::", port := some 25 } ∧
      (Address.Ip.parse? "2001:db8::").isSome ∧
      t.replies =
        [⟨220, "mx " ++ Sample.trusting.settings.banner⟩,
          ⟨502, "Couldn't parse address 2001:db8::PORT=25"⟩] ∧
      t.transaction.peer.remoteAddr = Sample.place := by
  decide +kernel

end Turn
end MailIntake
