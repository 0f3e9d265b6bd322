import MailIntake.Proofs.Session.PathLine
import MailIntake.Proofs.Text.Numeral
/-!
A sender who declares how big the message is.  The declared size is compared with the limit as a
number of 64 bits, and a number that does not fit into them is passed over: a sender is turned down
exactly if the size is over the limit and fits (`declared_size_heeded`).
-/
namespace MailIntake

open Text

universe u

/-- A text that writes a natural number in decimal digits, of any length. -/
def IsNumeral (text : String) : Prop :=
  text ≠ "" ∧ ∀ c ∈ text.toList, c.isDigit

instance (text : String) : Decidable (IsNumeral text) :=
  @instDecidableAnd _ _ inferInstance (List.decidableBAll _ text.toList)

def numeralValue (text : String) : Nat :=
  Nat.ofDigitChars 10 text.toList 0

/-- A parameter that speaks of the size, whatever it says of it. -/
def NamesSize (parameter : String) : Prop :=
  ∃ key value, parameter = key ++ "=" ++ value ∧ Ascii.upper key = "SIZE"

/-- A key in any case that reads `SIZE` has no sign of equality of its own. -/
theorem cutOnce_key {key : String} (hkey : Ascii.upper key = "SIZE") (value : String) :
    cutOnce (· == '=') (key ++ "=" ++ value).toList = some (key.toList, value.toList) := by
  have hplain : ∀ c ∈ key.toList, (c == '=') = false := by
    intro c hc
    rw [beq_eq_false_iff_ne]
    rintro rfl
    have hupper : '=' ∈ (Ascii.upper key).toList := by
      rw [Ascii.upper, String.toList_ofList]
      exact List.mem_map.mpr ⟨'=', hc, by decide⟩
    rw [hkey] at hupper
    exact absurd hupper (by decide)
  have htext : (key ++ "=" ++ value).toList = key.toList ++ '=' :: value.toList := by simp
  rw [htext, cutOnce_append_cons hplain (by decide)]

theorem namesSize_iff {parameter : String} :
    NamesSize parameter ↔ ∃ cut ∈ cutOnce (· == '=') parameter.toList,
      Ascii.upper (String.ofList cut.1) = "SIZE" := by
  constructor
  · rintro ⟨key, value, rfl, hkey⟩
    exact ⟨_, cutOnce_key hkey value, by rwa [String.ofList_toList]⟩
  · rintro ⟨⟨key, value⟩, hcut, hkey⟩
    obtain ⟨mark, hmark, htext⟩ := cutOnce_eq_some hcut
    refine ⟨String.ofList key, String.ofList value, ?_, hkey⟩
    rw [← String.toList_inj, htext, beq_iff_eq.mp hmark]
    simp

instance (parameter : String) : Decidable (NamesSize parameter) :=
  decidable_of_iff' _ namesSize_iff

namespace Text.Ascii

/-- A text of digits is read as the number that it denotes, if that is below the bound. -/
theorem boundedNumber?_of_isNumeral {text : String} (htext : IsNumeral text) (bound : Nat) :
    boundedNumber? bound text.toList =
      if numeralValue text < bound then some (numeralValue text) else none := by
  obtain ⟨hne, hdigits⟩ := htext
  cases hcut : text.toList with
  | nil => exact absurd (String.toList_eq_nil_iff.mp hcut) hne
  | cons c rest =>
      rw [hcut] at hdigits
      have hplus : c ≠ '+' := by
        rintro rfl
        exact absurd (hdigits _ List.mem_cons_self) (by decide)
      have hnumber : number? (c :: rest) = some (numeralValue text) := by
        rw [numeralValue, hcut]
        exact foldlM_digit? hdigits 0
      simp [boundedNumber?, hplus, hnumber]

end Text.Ascii

namespace Turn

theorem sizeOf?_key {key : String} (hkey : Ascii.upper key = "SIZE") (value : String) :
    sizeOf? (key ++ "=" ++ value) = size? value.toList := by
  have hsame : Ascii.sameIgnoringCase key "SIZE" := by
    rw [Ascii.sameIgnoringCase, hkey]
    decide
  rw [sizeOf?, cutOnce_key hkey]
  simp only [String.ofList_toList, hsame, if_true]

/-- A parameter that does not speak of the size declares none. -/
theorem sizeOf?_of_not_namesSize {parameter : String} (hother : ¬ NamesSize parameter) :
    sizeOf? parameter = none := by
  rw [sizeOf?]
  split
  · next key value hcut =>
      have hkey : ¬ Ascii.sameIgnoringCase (String.ofList key) "SIZE" := fun hsame =>
        hother (namesSize_iff.mpr ⟨(key, value), hcut, beq_iff_eq.mp hsame⟩)
      rw [if_neg hkey]
  · rfl

/-- Only the parameter that speaks of the size matters, wherever it stands. -/
theorem declaredSize_of_once {front back : List String} {key : String}
    (hkey : Ascii.upper key = "SIZE") (value : String)
    (hothers : ∀ parameter ∈ front ++ back, ¬ NamesSize parameter) :
    declaredSize (front ++ (key ++ "=" ++ value) :: back) = size? value.toList := by
  have hnone : ∀ parameters : List String, (∀ parameter ∈ parameters, ¬ NamesSize parameter) →
      declaredSize parameters = none := fun parameters hmem =>
    List.findSome?_eq_none_iff.mpr fun parameter hparameter =>
      sizeOf?_of_not_namesSize (hmem parameter hparameter)
  obtain ⟨hfront, hback⟩ := List.forall_mem_append.mp hothers
  have hbefore := hnone front hfront
  have hbehind := hnone back hback
  rw [declaredSize] at hbefore hbehind ⊢
  rw [List.findSome?_append, hbefore, Option.none_or, List.findSome?_cons, sizeOf?_key hkey,
    hbehind]
  cases size? value.toList with
  | none => rfl
  | some size => rfl

end Turn

/-- A line that names a sender who can be read and declares a size once, in decimal digits. -/
structure CommandLine.DeclaresSize (line : CommandLine) (sender : ReversePath) (digits : String) :
    Prop where
  verb : line.verb? = some .mail
  sender : ∃ path, Turn.pathBehind "FROM" line = some path ∧
    ReversePath.parse? path = some sender
  numeral : IsNumeral digits
  once : ∃ front key back, line.esmtpParameters = front ++ (key ++ "=" ++ digits) :: back ∧
    Ascii.upper key = "SIZE" ∧ ∀ parameter ∈ front ++ back, ¬ NamesSize parameter

namespace Turn

variable {W : Type u} {service : Service W} {t : Turn W} {line : CommandLine} {sender : ReversePath}

/-- A session turns a message down because of its size: nothing but the line and the reply has
happened, no sender is set, and the client has paid for it. -/
structure RefusesSize (service : Service W) (line : CommandLine) (before after : Turn W) :
    Prop where
  journal : after.journal =
    .replied ⟨552, tooBigText service⟩ :: .command line :: before.journal
  sender : after.transaction.envelope.sender = none
  karma : after.transaction.karma = before.transaction.karma - 5
  transaction : after.transaction = before.transaction.penalize Karma.messageTooBig
  world : after.world = before.world
  phase : after.phase = .command {}

/-- A size over the limit is refused if it fits into 64 bits, and in all other cases the session
goes on to ask its checkers about the sender. -/
structure WeighsSize (service : Service W) (line : CommandLine) (sender : ReversePath) (size : Nat)
    (before after : Turn W) : Prop where
  refuses_iff : RefusesSize service line before after ↔
    service.settings.maxMessageSize.toNat < size ∧ size < UInt64.size
  takes_iff : TakesSender service line sender before after ↔
    size ≤ service.settings.maxMessageSize.toNat ∨ UInt64.size ≤ size

/-- Who is turned down because of a size is not asked about. -/
theorem RefusesSize.not_takesSender {before after : Turn W}
    (hrefuses : RefusesSize service line before after) :
    ¬ TakesSender service line sender before after := by
  intro htakes
  obtain ⟨newer, hasked⟩ := htakes.asked
  have hlength := congrArg List.length (hrefuses.journal.symm.trans hasked)
  cases newer with
  | nil =>
      rw [hrefuses.journal] at hasked
      cases hasked
  | cons event newer =>
      simp only [List.length_cons, List.length_append] at hlength
      omega

theorem AwaitsSender.refusesSize (hawaits : t.AwaitsSender service) :
    RefusesSize service line t (((t.note (.command line)).refuse Karma.messageTooBig 552
      (tooBigText service)).conclude) where
  journal := rfl
  sender := (senderObstacle_eq_none hawaits.obstacle).2.2.2
  karma := rfl
  transaction := rfl
  world := rfl
  phase := rfl

theorem AwaitsSender.weighsSize {digits : String} (hawaits : t.AwaitsSender service)
    (hdeclares : line.DeclaresSize sender digits) :
    WeighsSize service line sender (numeralValue digits) t (t.dispatch service line) := by
  obtain ⟨path, hpath, hparse⟩ := hdeclares.sender
  obtain ⟨front, key, back, hparameters, hkey, hothers⟩ := hdeclares.once
  have hsize : declaredSize line.esmtpParameters =
      if numeralValue digits < UInt64.size then some (numeralValue digits) else none := by
    rw [hparameters, declaredSize_of_once hkey digits hothers]
    exact Ascii.boundedNumber?_of_isNumeral hdeclares.numeral UInt64.size
  have hlimit : service.settings.maxMessageSize.toNat < UInt64.size :=
    service.settings.maxMessageSize.toNat_lt
  have hdispatch : t.dispatch service line = (t.note (.command line)).mail service line := by
    simp only [dispatch, hdeclares.verb, execute]
  have hmail := mail_of_sender (t := t.note (.command line)) hawaits.obstacle hpath hparse
  by_cases hover : service.settings.maxMessageSize.toNat < numeralValue digits ∧
      numeralValue digits < UInt64.size
  · have hany : (declaredSize line.esmtpParameters).any
        (service.settings.maxMessageSize.toNat < ·) := by
      simp [hsize, hover]
    rw [if_pos hany] at hmail
    have hrefuses : RefusesSize service line t (t.dispatch service line) := by
      rw [hdispatch, hmail]
      exact hawaits.refusesSize
    exact ⟨iff_of_true hrefuses hover, iff_of_false hrefuses.not_takesSender (by omega)⟩
  · have hany : ¬ (declaredSize line.esmtpParameters).any
        (service.settings.maxMessageSize.toNat < ·) := by
      rw [hsize]
      split
      · next hfits => simpa [hfits] using hover
      · simp
    rw [if_neg hany] at hmail
    have htakes : TakesSender service line sender t (t.dispatch service line) := by
      rw [hdispatch, hmail]
      exact takesSender_proposeSender service t line sender
    exact ⟨iff_of_false (fun hrefuses => hrefuses.not_takesSender htakes) hover,
      iff_of_true htakes (by omega)⟩

theorem refusesSize_countRead {after : Turn W} {bytes : Nat} :
    RefusesSize service line (t.countRead bytes) after ↔ RefusesSize service line t after :=
  ⟨fun ⟨journal, sender, karma, transaction, world, phase⟩ =>
      ⟨journal, sender, karma, transaction, world, phase⟩,
    fun ⟨journal, sender, karma, transaction, world, phase⟩ =>
      ⟨journal, sender, karma, transaction, world, phase⟩⟩

theorem takesSender_countRead {after : Turn W} {bytes : Nat} :
    TakesSender service line sender (t.countRead bytes) after ↔
      TakesSender service line sender t after :=
  ⟨takesSender_of_countRead, fun ⟨asked, recorded⟩ => ⟨asked, recorded⟩⟩

theorem WeighsSize.of_countRead {after : Turn W} {size bytes : Nat}
    (h : WeighsSize service line sender size (t.countRead bytes) after) :
    WeighsSize service line sender size t after :=
  ⟨refusesSize_countRead.symm.trans h.refuses_iff, takesSender_countRead.symm.trans h.takes_iff⟩

/-- In a session that awaits a sender, a size over the limit is refused if it fits into 64 bits.
Every other size that is written in decimal digits, even one that no machine could hold, lets the
sender through to the checkers.  Neither the letter case of the keyword nor the place among the
parameters matters, nor how the bytes of the line arrive. -/
theorem declared_size_heeded (service : Service W) (hawaits : t.AwaitsSender service)
    {text digits : String} (hdeclares : (CommandLine.parse text).DeclaresSize sender digits) :
    let line := CommandLine.parse text
    let size := numeralValue digits
    WeighsSize service line sender size t (t.takeLine service (.text text)) ∧
      ∀ chunks : List (List UInt8), IsUnbroken text → (lineBytes text).length ≤ maxLineLength →
        chunks.flatten = lineBytes text →
          WeighsSize service line sender size t (t.run service (chunks.map .bytes)) := by
  intro line size
  refine ⟨hawaits.weighsSize hdeclares, ?_⟩
  intro chunks hunbroken hfits hchunks
  have hweighs := (hawaits.countRead (lineBytes text).length).weighsSize hdeclares
  rw [run_lineBytes service hawaits.phase hunbroken hfits hchunks]
  exact hweighs.of_countRead

theorem declared_size_heeded_limit :
    let greeted := Sample.start.run Sample.service [.bytes (lineBytes "HELO c")]
    let within := "MAIL FROM:<> BODY=8BITMIME sIzE=00010240000"
    let beyond := "MAIL FROM:<> Size=10240001 BODY=8BITMIME"
    TakesSender Sample.service (CommandLine.parse within) .null greeted
        (greeted.run Sample.service [.bytes (lineBytes within)]) ∧
      RefusesSize Sample.service (CommandLine.parse beyond) greeted
        (greeted.takeLine Sample.service (.text beyond)) := by
  intro greeted within beyond
  have hawaits : greeted.AwaitsSender Sample.service := ⟨by decide +kernel, by decide +kernel⟩
  have hwithin : (CommandLine.parse within).DeclaresSize .null "00010240000" :=
    ⟨by decide +kernel, ⟨"<>", by decide +kernel, by decide +kernel⟩, by decide +kernel,
      ["BODY=8BITMIME"], "sIzE", [], by decide +kernel, by decide +kernel, by decide +kernel⟩
  have hbeyond : (CommandLine.parse beyond).DeclaresSize .null "10240001" :=
    ⟨by decide +kernel, ⟨"<>", by decide +kernel, by decide +kernel⟩, by decide +kernel,
      [], "Size", ["BODY=8BITMIME"], by decide +kernel, by decide +kernel, by decide +kernel⟩
  have htaken := (declared_size_heeded Sample.service hawaits hwithin).2 [lineBytes within]
    (by decide +kernel) (by decide +kernel) (by simp)
  have hrefused := (declared_size_heeded Sample.service hawaits hbeyond).1
  have hfits : numeralValue "00010240000" ≤ Sample.service.settings.maxMessageSize.toNat := by
    decide +kernel
  have hexceeds : Sample.service.settings.maxMessageSize.toNat < numeralValue "10240001" ∧
      numeralValue "10240001" < UInt64.size := by
    decide +kernel
  exact ⟨htaken.takes_iff.mpr (.inl hfits), hrefused.refuses_iff.mpr hexceeds⟩

/-- The smallest size that does not fit into 64 bits is far over the limit, and nobody minds. -/
theorem vast_size_passes :
    let greeted := Sample.start.run Sample.service [.bytes (lineBytes "HELO c")]
    let text := "MAIL FROM:<> SIZE=18446744073709551616"
    let after := greeted.run Sample.service [.bytes (lineBytes text)]
    greeted.AwaitsSender Sample.service ∧
      (CommandLine.parse text).DeclaresSize .null "18446744073709551616" ∧
      Sample.service.settings.maxMessageSize.toNat < numeralValue "18446744073709551616" ∧
      lastReply? after.journal = some ⟨250, "Go ahead"⟩ ∧
      after.transaction.envelope.sender = some .null ∧
      after.transaction.karma = greeted.transaction.karma + 1 := by
  intro greeted text after
  refine ⟨⟨by decide +kernel, by decide +kernel⟩, ?_, by decide +kernel, by decide +kernel,
    by decide +kernel, by decide +kernel⟩
  exact ⟨by decide +kernel, ⟨"<>", by decide +kernel, by decide +kernel⟩, by decide +kernel,
    [], "SIZE", [], by decide +kernel, by decide +kernel, by decide +kernel⟩

end Turn
end MailIntake
