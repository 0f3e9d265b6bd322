import MailIntake.Proxy
import MailIntake.Proofs.Address.Printing
import MailIntake.Proofs.Session.SpacedLine
/-!
The PROXY header of a line.  A line holds a header exactly if its words are the six that the header
is written with, where nothing but the case of the first one and the spelling of the addresses is
free.  The tokenizer of commands, which puts some words together, makes no difference to this
(`header_of_line`).
-/
namespace MailIntake

open Text Address

def ProxyFamily.name : ProxyFamily → String
  | .tcp4 => "TCP4"
  | .tcp6 => "TCP6"

inductive ProxyFamily.Denotes : ProxyFamily → String → Ip → Prop
  | tcp4 {text : String} {a : V4} (hparse : V4.parse? text = some a) : Denotes .tcp4 text (.v4 a)
  | tcp6 {text : String} {a : V6} (hparse : V6.parse? text = some a) : Denotes .tcp6 text (.v6 a)

inductive ProxyFamily.Has : ProxyFamily → Ip → Prop
  | tcp4 (a : V4) : Has .tcp4 (.v4 a)
  | tcp6 (a : V6) : Has .tcp6 (.v6 a)

namespace ProxyHeader

/-- The words that a header is written with: the verb in any case, the name of the family, two
addresses of the family, and two ports in decimal digits without a sign and without a zero in front
of other digits. -/
def IsCanonical (words : List String) (h : ProxyHeader) : Prop :=
  ∃ verb source destination,
    words = [verb, h.family.name, source, destination, toString h.source.port.toNat,
      toString h.destination.port.toNat] ∧
    Ascii.upper verb = "PROXY" ∧ h.family.Denotes source h.source.ip ∧
      h.family.Denotes destination h.destination.ip

theorem family?_eq_some_iff {text : String} {family : ProxyFamily} :
    family? text = some family ↔ text = family.name := by
  rw [family?]
  constructor
  · intro hfamily
    split at hfamily
    · next htext =>
        cases hfamily
        exact htext
    split at hfamily
    · next htext =>
        cases hfamily
        exact htext
    · cases hfamily
  · rintro rfl
    cases family <;> decide

theorem address?_eq_some_iff {family : ProxyFamily} {text : String} {ip : Ip} :
    address? family text = some ip ↔ family.Denotes text ip := by
  constructor
  · intro haddress
    cases family with
    | tcp4 =>
        obtain ⟨a, hparse, rfl⟩ := Option.map_eq_some_iff.mp haddress
        exact .tcp4 hparse
    | tcp6 =>
        obtain ⟨a, hparse, rfl⟩ := Option.map_eq_some_iff.mp haddress
        exact .tcp6 hparse
  · rintro (⟨hparse⟩ | ⟨hparse⟩)
    · exact Option.map_eq_some_iff.mpr ⟨_, hparse, rfl⟩
    · exact Option.map_eq_some_iff.mpr ⟨_, hparse, rfl⟩

theorem address?_empty (family : ProxyFamily) : address? family "" = none := by
  cases family <;> rfl

/-- A port that can be read is written in its digits. -/
theorem eq_toString_of_port? {text : String} {port : UInt16} (hport : port? text = some port) :
    text = toString port.toNat := by
  rw [Nat.toString_eq_repr, ← String.toList_inj, Nat.toList_repr]
  rw [port?] at hport
  split at hport
  · cases hport
  next d more htext =>
  split at hport
  · cases hport
  next hshape =>
  rw [readPort] at hport
  split at hport
  · next value hnumber =>
      split at hport
      · next hbound =>
          cases hport
          obtain ⟨hdigits, hvalue⟩ := Ascii.number?_eq_some_iff.mp hnumber
          have hhead : d ≠ '0' ∨ more = [] := by
            by_contra hzero
            rw [not_or, not_not] at hzero
            exact hshape (.inr hzero)
          rw [htext, UInt16.toNat_ofNat_of_lt' hbound, ← hvalue,
            Ascii.toDigits_ofDigitChars hdigits hhead]
      · cases hport
  · cases hport

/-- A port in its digits can be read. -/
theorem port?_toString (port : UInt16) : port? (toString port.toNat) = some port := by
  have hlt : port.toNat < 65536 := port.toNat_lt
  have hnumber := Ascii.number?_toDigits port.toNat
  have hlength : (Nat.toDigits 10 port.toNat).length ≤ 5 :=
    (Nat.length_toDigits_le_iff (by decide) (by decide)).mpr (by omega)
  rw [Nat.toString_eq_repr, port?, Nat.toList_repr]
  cases hdigits : Nat.toDigits 10 port.toNat with
  | nil => exact absurd hdigits Nat.toDigits_ne_nil
  | cons d more =>
      rw [hdigits] at hnumber hlength
      have hhead := Ascii.head_of_toDigits hdigits
      have hshape : ¬ (4 < more.length ∨ d = '0' ∧ more ≠ []) := by
        rintro (hlong | ⟨hzero, hmore⟩)
        · rw [List.length_cons] at hlength
          omega
        · exact hhead.elim (absurd hzero) hmore
      simp only [if_neg hshape, readPort, hnumber, if_pos hlt, UInt16.ofNat_toNat]

/-- The only text of a port is its number in decimal digits. -/
theorem port?_eq_some_iff {text : String} {port : UInt16} :
    port? text = some port ↔ text = toString port.toNat := by
  refine ⟨eq_toString_of_port?, ?_⟩
  rintro rfl
  exact port?_toString port

theorem orError_eq_ok_iff {A : Type} {e : ProxyError} {value : Option A} {a : A} :
    orError e value = .ok a ↔ value = some a := by
  cases value with
  | none => simp [orError]
  | some b => simp [orError]

theorem bind_eq_ok_iff {A B : Type} {value : Except ProxyError A} {next : A → Except ProxyError B}
    {b : B} : (value >>= next) = .ok b ↔ ∃ a, value = .ok a ∧ next a = .ok b := by
  cases value with
  | error e => simp [bind, Except.bind]
  | ok a => simp [bind, Except.bind]

/-- Six words are a header if each of them can be read. -/
theorem ofFields_six {verb name source destination firstPort secondPort : String}
    {h : ProxyHeader} :
    ofFields [verb, name, source, destination, firstPort, secondPort] = .ok h ↔
      Ascii.upper verb = "PROXY" ∧ family? name = some h.family ∧
        address? h.family source = some h.source.ip ∧
        address? h.family destination = some h.destination.ip ∧
        port? firstPort = some h.source.port ∧ port? secondPort = some h.destination.port := by
  obtain ⟨family, ⟨sourceIp, sourcePort⟩, ⟨destinationIp, destinationPort⟩⟩ := h
  rw [ofFields]
  by_cases hverb : Ascii.sameIgnoringCase verb "PROXY"
  · have hupper : Ascii.upper verb = "PROXY" := beq_iff_eq.mp hverb
    simp [hverb, hupper, bind_eq_ok_iff, orError_eq_ok_iff, pure, Except.pure]
  · have hupper : Ascii.upper verb ≠ "PROXY" := fun hsame => hverb (beq_iff_eq.mpr hsame)
    simp [hverb, hupper, bind, Except.bind, throw, throwThe, MonadExceptOf.throw]

/-- Words hold the header that they are written for, and others hold none. -/
theorem ofFields_eq_ok_iff {words : List String} {h : ProxyHeader} :
    ofFields words = .ok h ↔ IsCanonical words h := by
  constructor
  · intro hread
    rw [ofFields.eq_def] at hread
    split at hread
    · next verb name source destination firstPort secondPort =>
        obtain ⟨hverb, hname, hsource, hdestination, hfirst, hsecond⟩ := ofFields_six.mp hread
        rw [family?_eq_some_iff] at hname
        rw [address?_eq_some_iff] at hsource hdestination
        rw [port?_eq_some_iff] at hfirst hsecond
        refine ⟨verb, source, destination, ?_, hverb, hsource, hdestination⟩
        rw [hname, hfirst, hsecond]
    · cases hread
  · rintro ⟨verb, source, destination, rfl, hverb, hsource, hdestination⟩
    rw [ofFields_six]
    exact ⟨hverb, family?_eq_some_iff.mpr rfl, address?_eq_some_iff.mpr hsource,
      address?_eq_some_iff.mpr hdestination, port?_eq_some_iff.mpr rfl, port?_eq_some_iff.mpr rfl⟩

theorem colon_notMem_name (family : ProxyFamily) : ':' ∉ family.name.toList := by
  cases family <;> decide

/-- The words of a header are not put together. -/
theorem IsCanonical.glueValue_eq {words : List String} {h : ProxyHeader}
    (hcanonical : IsCanonical words h) : CommandLine.glueValue words = words := by
  obtain ⟨verb, source, destination, rfl, -⟩ := hcanonical
  apply CommandLine.glueValue_of_settled
  right
  intro hcolon
  exact colon_notMem_name h.family (List.mem_of_getLast? hcolon)

/-- Words of which some are put together are not those of a header. -/
theorem glueValue_eq_of_isCanonical {words : List String} {h : ProxyHeader}
    (hcanonical : IsCanonical (CommandLine.glueValue words) h) :
    CommandLine.glueValue words = words := by
  obtain ⟨verb, source, destination, hwords, -⟩ := hcanonical
  match words with
  | [] | [_] | [_, _] => rfl
  | first :: key :: value :: rest =>
      by_cases hcolon : key.toList.getLast? = some ':'
      · rw [CommandLine.glueValue_of_colon hcolon] at hwords
        have hname : key ++ value = h.family.name := (List.cons.inj (List.cons.inj hwords).2).1
        have hmem : ':' ∈ h.family.name.toList := by
          rw [← hname, String.toList_append]
          exact List.mem_append_left _ (List.mem_of_getLast? hcolon)
        exact absurd hmem (colon_notMem_name h.family)
      · exact CommandLine.glueValue_of_settled (.inr hcolon) first

/-- The words of a command hold the same header as those of its line. -/
theorem isCanonical_glueValue {words : List String} {h : ProxyHeader} :
    IsCanonical (CommandLine.glueValue words) h ↔ IsCanonical words h := by
  constructor
  · intro hcanonical
    rwa [glueValue_eq_of_isCanonical hcanonical] at hcanonical
  · intro hcanonical
    rwa [hcanonical.glueValue_eq]

/-- A header as it is written. -/
def render (h : ProxyHeader) : String :=
  spaced ["PROXY", h.family.name, h.source.ip.render, h.destination.ip.render,
    toString h.source.port.toNat, toString h.destination.port.toNat]

theorem denotes_render {family : ProxyFamily} {ip : Ip} (hhas : family.Has ip) :
    family.Denotes ip.render ip := by
  cases hhas with
  | tcp4 a => exact .tcp4 a.parse?_render
  | tcp6 a => exact .tcp6 a.parse?_render

theorem isWord_render {family : ProxyFamily} {ip : Ip} (hhas : family.Has ip) :
    IsWord ip.render := by
  refine ⟨?_, fun c hc => (Ip.isAddressChar_of_mem_render hc).isBlank⟩
  intro hempty
  have hdenotes := denotes_render hhas
  rw [hempty, ← address?_eq_some_iff, address?_empty] at hdenotes
  cases hdenotes

theorem isWord_toString (value : Nat) : IsWord (toString value) := by
  rw [Nat.toString_eq_repr]
  refine ⟨fun hempty => ?_, fun c hc => ?_⟩
  · rw [← String.toList_inj, Nat.toList_repr] at hempty
    exact Nat.toDigits_ne_nil hempty
  · rw [Nat.toList_repr] at hc
    exact (isAddressChar_of_mem_octet hc).isBlank

/-- A written header is a line of the words of that header. -/
theorem writtenWith_render {h : ProxyHeader} (hsource : h.family.Has h.source.ip)
    (hdestination : h.family.Has h.destination.ip) :
    ∃ words, WrittenWith words h.render.toList ∧ IsCanonical words h := by
  have hname : IsWord h.family.name := by cases h.family <;> decide
  have hwords : ∀ word ∈ ["PROXY", h.family.name, h.source.ip.render, h.destination.ip.render,
      toString h.source.port.toNat, toString h.destination.port.toNat], IsWord word := by
    simp only [List.forall_mem_cons]
    exact ⟨by decide, hname, isWord_render hsource, isWord_render hdestination, isWord_toString _,
      isWord_toString _, List.forall_mem_nil _⟩
  exact ⟨_, writtenWith_iff.mpr (CommandLine.words_spaced (List.cons_ne_nil _ _) hwords),
    "PROXY", _, _, rfl, by decide, denotes_render hsource, denotes_render hdestination⟩

/-- A line holds a header exactly if its words are those that the header is written with, read by
itself or as a command.  So what is written for a header is read as that header, whatever its
addresses and ports, as long as its addresses are of its family. -/
theorem header_of_line :
    (∀ (line : String) (h : ProxyHeader),
      (parse line = .ok h ↔ ∃ words, WrittenWith words line.toList ∧ IsCanonical words h) ∧
      (ofFields (CommandLine.parse line).fields = .ok h ↔
        ∃ words, WrittenWith words line.toList ∧ IsCanonical words h)) ∧
    ∀ h : ProxyHeader, h.family.Has h.source.ip → h.family.Has h.destination.ip →
      parse h.render = .ok h ∧ ofFields (CommandLine.parse h.render).fields = .ok h := by
  have hlines : ∀ (line : String) (h : ProxyHeader),
      (parse line = .ok h ↔ ∃ words, WrittenWith words line.toList ∧ IsCanonical words h) ∧
      (ofFields (CommandLine.parse line).fields = .ok h ↔
        ∃ words, WrittenWith words line.toList ∧ IsCanonical words h) := by
    intro line h
    have hwritten : (∃ words, WrittenWith words line.toList ∧ IsCanonical words h) ↔
        IsCanonical (Ascii.words line) h := by
      simp only [writtenWith_iff, exists_eq_left']
    rw [hwritten]
    exact ⟨ofFields_eq_ok_iff, ofFields_eq_ok_iff.trans isCanonical_glueValue⟩
  refine ⟨hlines, fun h hsource hdestination => ?_⟩
  have hwritten := writtenWith_render hsource hdestination
  obtain ⟨hparse, hfields⟩ := hlines h.render h
  exact ⟨hparse.mpr hwritten, hfields.mpr hwritten⟩

theorem header_of_line_mapped :
    let source : Ip := .v6 ⟨[0x2001, 0xdb8, 0, 0, 1, 0, 0, 1], rfl⟩
    let destination : Ip := .v6 ⟨[0, 0, 0, 0, 0, 0xffff, 0xc000, 0x202], rfl⟩
    let h : ProxyHeader := ⟨.tcp6, ⟨source, 65535⟩, ⟨destination, 0⟩⟩
    h.render = "PROXY TCP6 2001:db8::1:0:0:1 ::ffff:192.0.2.2 65535 0" ∧ parse h.render = .ok h ∧
      ofFields (CommandLine.parse h.render).fields = .ok h := by
  intro source destination h
  obtain ⟨-, hrender⟩ := header_of_line
  exact ⟨by decide +kernel, hrender h (.tcp6 _) (.tcp6 _)⟩

end ProxyHeader
end MailIntake
