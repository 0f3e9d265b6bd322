import MailIntake.Proofs.Address.Printing
import MailIntake.Proofs.Session.SentLine
import MailIntake.Proofs.Session.Twin
import MailIntake.Transaction
/-!
The trace field as a header field.  It is one field exactly if the line breaks in the name that the
client greets with are folds: the rest of it has no line breaks but folds of its own, provided the
other names in it have none (`addsOneField_iff`).
-/
namespace MailIntake

open Text

namespace Text.Utf8

theorem encode_append (a b : String) : encode (a ++ b) = encode a ++ encode b := by
  rw [encode, String.toList_append, List.flatMap_append, encode, encode]

end Text.Utf8

/-- Bytes in which every carriage return and every line feed is part of a fold, which is a line end
with a tab behind it. -/
inductive IsFolded : List UInt8 → Prop
  | nil : IsFolded []
  | byte {b : UInt8} {rest : List UInt8} (hb : LineReader.isEnd b = false)
      (hrest : IsFolded rest) : IsFolded (b :: rest)
  | fold {rest : List UInt8} (hrest : IsFolded rest) : IsFolded (0x0D :: 0x0A :: 0x09 :: rest)

namespace IsFolded

/-- Reads from the front whether every line break is part of a fold. -/
def check : List UInt8 → Bool
  | 0x0D :: 0x0A :: 0x09 :: rest => check rest
  | b :: rest => !LineReader.isEnd b && check rest
  | [] => true

theorem check_iff (text : List UInt8) : check text ↔ IsFolded text := by
  fun_induction check text with
  | case1 rest ih =>
      refine ih.trans ⟨.fold, fun h => ?_⟩
      cases h with
      | byte hb _ => exact absurd hb (by decide)
      | fold hrest => exact hrest
  | case2 b rest hfold ih =>
      rw [Bool.and_eq_true, Bool.not_eq_true', ih]
      constructor
      · rintro ⟨hb, hrest⟩
        exact .byte hb hrest
      · intro h
        cases h with
        | byte hb hrest => exact ⟨hb, hrest⟩
        | fold hrest => exact absurd rfl (hfold _ rfl)
  | case3 => exact iff_of_true rfl .nil

end IsFolded

instance (text : List UInt8) : Decidable (IsFolded text) :=
  decidable_of_iff _ (IsFolded.check_iff text)

/-- A line end with a tab behind it. -/
theorem isFolded_fold : IsFolded (Utf8.encode "\r\n\t") := by
  have hbytes : Utf8.encode "\r\n\t" = [0x0D, 0x0A, 0x09] := by decide
  rw [hbytes]
  exact .fold .nil

/-- One header field with the name of trace fields: it ends at a line end, and what is in front of
that has no line breaks but folds. -/
def IsTraceField (field : List UInt8) : Prop :=
  ∃ front, field = front ++ [0x0D, 0x0A] ∧ Utf8.encode "Received: " <+: front ∧ IsFolded front

/-- The trace field that is put in front of the body is one header field. -/
def Transaction.AddsOneField (tx : Transaction) (now : Moment) : Prop :=
  ∃ field, (tx.addReceivedLine now).envelope.body = field ++ tx.envelope.body ∧ IsTraceField field

theorem IsFolded.append {front back : List UInt8} (hfront : IsFolded front)
    (hback : IsFolded back) : IsFolded (front ++ back) := by
  induction hfront with
  | nil => exact hback
  | byte hb _ ih => exact .byte hb ih
  | fold _ ih => exact .fold ih

theorem isFolded_of_forall {text : List UInt8} (h : ∀ b ∈ text, LineReader.isEnd b = false) :
    IsFolded text := by
  induction text with
  | nil => exact .nil
  | cons b rest ih =>
      obtain ⟨hb, hrest⟩ := List.forall_mem_cons.mp h
      exact .byte hb (ih hrest)

theorem IsUnbroken.isFolded {text : String} (h : IsUnbroken text) : IsFolded (Utf8.encode text) :=
  isFolded_of_forall h.isEnd_eq_false

/-- No fold reaches over a space. -/
theorem isFolded_append_cons {front back : List UInt8} :
    IsFolded (front ++ 0x20 :: back) ↔ IsFolded front ∧ IsFolded back := by
  constructor
  · intro h
    generalize hwhole : front ++ 0x20 :: back = whole at h
    induction h generalizing front with
    | nil => simp at hwhole
    | @byte b rest hb hrest ih =>
        cases front with
        | nil =>
            cases hwhole
            exact ⟨.nil, hrest⟩
        | cons c front =>
            obtain ⟨rfl, hmore⟩ := List.cons.inj hwhole
            exact ⟨.byte hb (ih hmore).1, (ih hmore).2⟩
    | @fold rest hrest ih =>
        match front with
        | [] | [_] | [_, _] => simp at hwhole
        | a :: b :: c :: front =>
            simp only [List.cons_append, List.cons.injEq] at hwhole
            obtain ⟨rfl, rfl, rfl, hmore⟩ := hwhole
            exact ⟨.fold (ih hmore).1, (ih hmore).2⟩
  · rintro ⟨hfront, hback⟩
    exact hfront.append (.byte (by decide) hback)

section Unbroken

theorem isUnbroken_toString (n : Nat) : IsUnbroken (toString n) := by
  intro c hc
  rw [Nat.toString_eq_repr, Nat.toList_repr] at hc
  have hdigit := Nat.isDigit_of_mem_toDigits (by decide) (by decide) hc
  constructor <;> rintro rfl <;> exact absurd hdigit (by decide)

theorem isUnbroken_hexText (n : Nat) : IsUnbroken (Ascii.hexText n) := by
  intro c hc
  rw [Ascii.hexText, String.toList_ofList] at hc
  obtain ⟨digit, hlt, rfl⟩ := exists_digit_of_mem_toDigits hc
  clear hc
  decide +revert

theorem isUnbroken_paddedNumber (width n : Nat) : IsUnbroken (Ascii.paddedNumber width n) := by
  intro c hc
  rw [Ascii.paddedNumber, String.toList_ofList, List.mem_append, List.mem_replicate] at hc
  rcases hc with ⟨-, rfl⟩ | hc
  · decide
  · exact isUnbroken_toString n c (by rwa [Nat.toString_eq_repr, Nat.toList_repr])

theorem TransactionId.isUnbroken_render (id : TransactionId) : IsUnbroken id.render := by
  intro c hc
  rw [render, String.toList_ofList, List.mem_append, List.mem_replicate] at hc
  rcases hc with ⟨-, rfl⟩ | hc
  · decide
  · exact isUnbroken_hexText id.bits.toNat c (by rwa [Ascii.hexText, String.toList_ofList])

theorem Address.Ip.isUnbroken_render (ip : Address.Ip) : IsUnbroken ip.render :=
  isUnbroken_of_not_blank fun _ hc => (Ip.isAddressChar_of_mem_render hc).isBlank

theorem isUnbroken_getD {names : List String} (h : ∀ name ∈ names, IsUnbroken name) (i : Nat) :
    IsUnbroken (names.getD i "") := by
  rw [List.getD_eq_getElem?_getD]
  cases hname : names[i]? with
  | none => decide
  | some name => exact h name (List.mem_of_getElem? hname)

theorem Moment.isUnbroken_render (m : Moment) : IsUnbroken m.render := by
  have hdays : ∀ i, IsUnbroken (dayNames.getD i "") := isUnbroken_getD (by decide)
  have hmonths : ∀ i, IsUnbroken (monthNames.getD i "") := isUnbroken_getD (by decide)
  simp only [render, isUnbroken_append, and_assoc]
  exact ⟨hdays _, by decide, isUnbroken_toString _, by decide, hmonths _, by decide,
    isUnbroken_paddedNumber _ _, by decide, isUnbroken_paddedNumber _ _, by decide,
    isUnbroken_paddedNumber _ _, by decide, isUnbroken_paddedNumber _ _, by decide⟩

end Unbroken

/-- What the trace field names and the server has not made up by itself. -/
structure Traces where
  hostname : String
  names : List String
  helo : Option String
  recipients : List ForwardPath

/-- Nothing but the name that the client greets with has a line break. -/
structure Traces.Plain (traces : Traces) : Prop where
  hostname : IsUnbroken traces.hostname
  names : ∀ name ∈ traces.names, IsUnbroken name
  recipients : ∀ recipient ∈ traces.recipients, IsUnbroken recipient.render

namespace Transaction

def traces (tx : Transaction) : Traces :=
  ⟨tx.peer.serverHostname, tx.peer.ptrs, tx.peer.helo, tx.envelope.recipients⟩

/-- Nothing that the trace field names is changed by adding it. -/
theorem traces_addReceivedLine (tx : Transaction) (now : Moment) :
    (tx.addReceivedLine now).traces = tx.traces := by
  rw [addReceivedLine, setBody, traces, traces]

/-- What the trace field says of the client behind its name. -/
def traceClient (tx : Transaction) : String :=
  "(" ++ tx.ptrText ++ " [" ++ tx.peer.remoteAddr.ip.render ++ "])"

def traceServer (tx : Transaction) : String :=
  "by " ++ tx.peer.serverHostname ++ " with " ++ tx.withText ++ " id " ++ tx.shared.id.render

/-- The trace field behind the name of the client, without its line end; `clause` is what is said of
the recipient. -/
def traceTail (tx : Transaction) (clause : String) (now : Moment) : String :=
  tx.traceClient ++ "\r\n\t" ++ tx.traceServer ++ clause ++ ";" ++ "\r\n\t" ++ now.render

/-- The trace field in its parts. -/
theorem receivedLine_eq (tx : Transaction) (now : Moment) : ∃ clause,
    (clause = "" ∨ ∃ recipient ∈ tx.envelope.recipients,
      clause = "\r\n\t" ++ "for <" ++ recipient.render ++ ">") ∧
    tx.receivedLine now = "Received: from" ++ " " ++ tx.peer.helo.getD "unknown" ++ " "
      ++ tx.traceTail clause now ++ "\r\n" := by
  have hstart : "Received: from " = "Received: from" ++ " " := by decide
  have hopen : " (" = " " ++ "(" := by decide
  have hfirst : "])\r\n\tby " = "])" ++ "\r\n\t" ++ "by " := by decide
  have hlast : ";\r\n\t" = ";" ++ "\r\n\t" := by decide
  unfold receivedLine
  rw [hstart, hopen, hfirst, hlast]
  split
  · next recipient hone =>
      refine ⟨"\r\n\t" ++ "for <" ++ recipient.render ++ ">",
        .inr ⟨recipient, by simp [hone], rfl⟩, ?_⟩
      have hfor : "\r\n\tfor <" = "\r\n\t" ++ "for <" := by decide
      unfold traceTail traceClient traceServer
      rw [hfor]
      simp only [String.append_assoc]
  · refine ⟨"", .inl rfl, ?_⟩
    unfold traceTail traceClient traceServer
    simp only [String.append_assoc]

/-- The bytes of the trace field, with the spaces that keep the name of the client apart from the
rest. -/
theorem encode_receivedLine (tx : Transaction) (now : Moment) : ∃ clause,
    (clause = "" ∨ ∃ recipient ∈ tx.envelope.recipients,
      clause = "\r\n\t" ++ "for <" ++ recipient.render ++ ">") ∧
    Utf8.encode (tx.receivedLine now) =
      (Utf8.encode "Received: from" ++ 0x20 :: (Utf8.encode (tx.peer.helo.getD "unknown") ++
        0x20 :: Utf8.encode (tx.traceTail clause now))) ++ [0x0D, 0x0A] := by
  obtain ⟨clause, hclause, hline⟩ := tx.receivedLine_eq now
  have hspace : Utf8.encode " " = [0x20] := by decide
  have hend : Utf8.encode "\r\n" = [0x0D, 0x0A] := by decide
  refine ⟨clause, hclause, ?_⟩
  rw [hline]
  simp only [Utf8.encode_append, hspace, hend, List.append_assoc, List.nil_append,
    List.cons_append]

theorem isUnbroken_ptrText {tx : Transaction} (hnames : ∀ name ∈ tx.peer.ptrs, IsUnbroken name) :
    IsUnbroken tx.ptrText := by
  rw [ptrText]
  cases hptrs : tx.peer.ptrs with
  | nil => decide
  | cons name more =>
      have hname : IsUnbroken name := hnames name (by simp [hptrs])
      intro c hc
      have hsuffix := List.dropWhile_suffix (· == '.') (l := name.toList.reverse)
      simp only [String.toList_ofList, dropTailWhile, List.mem_reverse] at hc
      exact hname c (List.mem_reverse.mp (hsuffix.subset hc))

theorem isUnbroken_withText (tx : Transaction) : IsUnbroken tx.withText := by
  have hprotocol : IsUnbroken tx.peer.protocol.render := by
    cases tx.peer.protocol <;> decide
  simp only [withText, isUnbroken_append]
  refine ⟨⟨hprotocol, ?_⟩, ?_⟩ <;> split <;> decide

end Transaction

namespace Traces.Plain

variable {tx : Transaction} (hplain : tx.traces.Plain)

include hplain

theorem isUnbroken_traceClient : IsUnbroken tx.traceClient := by
  simp only [Transaction.traceClient, isUnbroken_append, and_assoc]
  exact ⟨by decide, Transaction.isUnbroken_ptrText hplain.names, by decide,
    tx.peer.remoteAddr.ip.isUnbroken_render, by decide⟩

theorem isUnbroken_traceServer : IsUnbroken tx.traceServer := by
  simp only [Transaction.traceServer, isUnbroken_append, and_assoc]
  exact ⟨by decide, hplain.hostname, by decide, tx.isUnbroken_withText, by decide,
    tx.shared.id.isUnbroken_render⟩

/-- Behind the greeting name there are no line breaks but folds. -/
theorem isFolded_traceTail {clause : String} (hclause : IsFolded (Utf8.encode clause))
    (now : Moment) : IsFolded (Utf8.encode (tx.traceTail clause now)) := by
  have hmark : IsUnbroken ";" := by decide
  simp only [Transaction.traceTail, Utf8.encode_append]
  exact (((((hplain.isUnbroken_traceClient.isFolded.append isFolded_fold).append
    hplain.isUnbroken_traceServer.isFolded).append hclause).append hmark.isFolded).append
      isFolded_fold).append now.isUnbroken_render.isFolded

/-- What is said of the recipient begins with a fold. -/
theorem isFolded_clause {clause : String} (hclause : clause = "" ∨
    ∃ recipient ∈ tx.envelope.recipients,
      clause = "\r\n\t" ++ "for <" ++ recipient.render ++ ">") :
    IsFolded (Utf8.encode clause) := by
  rcases hclause with rfl | ⟨recipient, hmem, rfl⟩
  · exact .nil
  · have hfor : IsUnbroken ("for <" ++ recipient.render ++ ">") := by
      simp only [isUnbroken_append]
      exact ⟨⟨by decide, hplain.recipients recipient hmem⟩, by decide⟩
    rw [String.append_assoc, String.append_assoc, Utf8.encode_append, ← String.append_assoc]
    exact isFolded_fold.append hfor.isFolded

/-- The trace field is one header field exactly if the name that the client greets with has no line
breaks but folds. -/
theorem addsOneField_iff (now : Moment) :
    tx.AddsOneField now ↔ ∀ name, tx.peer.helo = some name → IsFolded (Utf8.encode name) := by
  obtain ⟨clause, hclause, hbytes⟩ := tx.encode_receivedLine now
  have hstart : IsFolded (Utf8.encode "Received: from") :=
    IsUnbroken.isFolded (by decide)
  have htail := hplain.isFolded_traceTail (hplain.isFolded_clause hclause) now
  have hname : Utf8.encode "Received: " <+: Utf8.encode "Received: from" :=
    ⟨Utf8.encode "from", by decide⟩
  have hbody : (tx.addReceivedLine now).envelope.body =
      Utf8.encode (tx.receivedLine now) ++ tx.envelope.body := rfl
  have hfield : tx.AddsOneField now ↔ IsFolded (Utf8.encode (tx.peer.helo.getD "unknown")) := by
    rw [Transaction.AddsOneField, hbody, hbytes]
    constructor
    · rintro ⟨field, hsame, front, rfl, -, hfolded⟩
      have hfront := List.append_cancel_right (List.append_cancel_right hsame)
      rw [← hfront, isFolded_append_cons, isFolded_append_cons] at hfolded
      exact hfolded.2.1
    · intro hhelo
      exact ⟨_, rfl, _, rfl, hname.trans (List.prefix_append _ _),
        isFolded_append_cons.mpr ⟨hstart, isFolded_append_cons.mpr ⟨hhelo, htail⟩⟩⟩
  rw [hfield]
  cases tx.peer.helo with
  | none =>
      have hunknown : IsUnbroken "unknown" := by decide
      exact iff_of_true hunknown.isFolded nofun
  | some name => simp

end Traces.Plain

end MailIntake
