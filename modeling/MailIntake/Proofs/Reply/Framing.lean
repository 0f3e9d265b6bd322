import MailIntake.Reply
import MailIntake.Proofs.Text.Split
/-!
Replies on the wire and back.  Every line of a written reply begins with its code and ends with a
carriage return and a line feed, whatever the message is.  The lines of any replies, fed in order to
one builder, complete each reply at its last line, and lines that do not fit in between change
nothing (`taken_render`).
-/
namespace MailIntake

open Text

/-- The pieces of a text, each up to a line feed; what stands behind the last line feed is a piece
of its own. -/
def cutBehindFeeds : List Char → List (List Char)
  | [] => []
  | c :: rest =>
      if c = '\n' then [c] :: cutBehindFeeds rest
      else
        match cutBehindFeeds rest with
        | [] => [[c]]
        | piece :: more => (c :: piece) :: more

theorem cutBehindFeeds_append {line : List Char} (hline : '\n' ∉ line) (rest : List Char) :
    cutBehindFeeds (line ++ '\n' :: rest) = (line ++ ['\n']) :: cutBehindFeeds rest := by
  induction line with
  | nil => rw [List.nil_append, cutBehindFeeds, if_pos rfl, List.nil_append]
  | cons c line ih =>
      rw [List.mem_cons, not_or] at hline
      rw [List.cons_append, cutBehindFeeds, if_neg (Ne.symm hline.1), ih hline.2, List.cons_append]

/-- No line of a text holds a line feed. -/
theorem feed_notMem_textLines {text line : List Char} (hline : line ∈ textLines text) :
    '\n' ∉ line := by
  intro hfeed
  have hpiece : ∀ piece ∈ splitOn (· == '\n') text, '\n' ∉ piece := by
    intro piece hmem hfeed
    have hsep := sep_eq_false_of_mem_splitOn hmem hfeed
    simp at hsep
  rw [textLines] at hline
  split at hline
  · cases hline
  · next last earlier hreverse =>
      have hpieces : ∀ piece ∈ last :: earlier, '\n' ∉ piece := by
        intro piece hmem
        rw [← hreverse, List.mem_reverse] at hmem
        exact hpiece piece hmem
      have hended : ∀ piece ∈ earlier, '\n' ∉
          (if piece.getLast? = some '\r' then piece.dropLast else piece) := by
        intro piece hmem
        have hplain := hpieces piece (List.mem_cons_of_mem last hmem)
        split
        · exact fun hfeed => hplain ((List.dropLast_sublist piece).subset hfeed)
        · exact hplain
      simp only at hline
      split at hline
      · obtain ⟨piece, hmem, rfl⟩ := List.mem_map.mp hline
        exact hended piece (List.mem_reverse.mp hmem) hfeed
      · rcases List.mem_append.mp hline with hfront | hlast
        · obtain ⟨piece, hmem, rfl⟩ := List.mem_map.mp hfront
          exact hended piece (List.mem_reverse.mp hmem) hfeed
        · rw [List.mem_singleton.mp hlast] at hfeed
          exact hpieces last List.mem_cons_self hfeed

/-- What lines complete that make up one reply: the last one the reply, and the others nothing. -/
def completedBy (whole : Response) : List (List Char) → List (String × Option Response)
  | [] => []
  | [last] => [(String.ofList last, some whole)]
  | line :: next :: more => (String.ofList line, none) :: completedBy whole (next :: more)

theorem completedBy_cons (whole : Response) (line : List Char) {more : List (List Char)}
    (hmore : more ≠ []) :
    completedBy whole (line :: more) = (String.ofList line, none) :: completedBy whole more := by
  cases more with
  | nil => exact absurd rfl hmore
  | cons next more => rfl

namespace Reply

/-- A code of three digits. -/
def InRange (r : Reply) : Prop :=
  100 ≤ r.code.toNat ∧ r.code.toNat ≤ 999

instance (r : Reply) : Decidable r.InRange :=
  inferInstanceAs (Decidable (_ ∧ _))

def codeText (code : UInt16) : List Char :=
  (toString code.toNat).toList

/-- The lines of a message, one empty line for an empty message. -/
def messageLines (r : Reply) : List (List Char) :=
  match textLines r.message.toList with
  | [] => [[]]
  | line :: more => line :: more

/-- A line as it is read: without the carriage returns at its end. -/
def content (line : List Char) : String :=
  String.ofList (dropTailWhile (· == '\r') line)

def asRead (r : Reply) : Response :=
  ⟨r.code, r.messageLines.map content⟩

/-- Lines as they are marked on the wire: a dash stands behind the code of every line but the
last. -/
def markedLines (code : UInt16) : List (List Char) → List (List Char)
  | [] => []
  | [line] => [renderLine code ' ' line]
  | line :: next :: more => renderLine code '-' line :: markedLines code (next :: more)

def wireLines (r : Reply) : List (List Char) :=
  markedLines r.code r.messageLines

/-- A line of a reply: its code, a mark and a content without a line feed. -/
inductive IsWireLine (code : UInt16) : List Char → Prop
  | mk (mark : Char) (line : List Char) (hmark : mark = ' ' ∨ mark = '-') (hline : '\n' ∉ line) :
      IsWireLine code (renderLine code mark line)

theorem messageLines_ne_nil (r : Reply) : r.messageLines ≠ [] := by
  rw [messageLines]
  split
  · exact List.cons_ne_nil _ _
  · exact List.cons_ne_nil _ _

theorem feed_notMem_messageLines (r : Reply) : ∀ line ∈ r.messageLines, '\n' ∉ line := by
  intro line hline
  rw [messageLines] at hline
  split at hline
  · rw [List.mem_singleton.mp hline]
    exact List.not_mem_nil
  · next hlines => exact feed_notMem_textLines (hlines ▸ hline)

theorem markedLines_ne_nil (code : UInt16) {lines : List (List Char)} (hlines : lines ≠ []) :
    markedLines code lines ≠ [] := by
  match lines, hlines with
  | [_], _ => exact List.cons_ne_nil _ _
  | _ :: _ :: _, _ => exact List.cons_ne_nil _ _

theorem renderLines_eq_flatten (code : UInt16) {lines : List (List Char)} (hlines : lines ≠ []) :
    renderLines code lines = (markedLines code lines).flatten := by
  induction lines with
  | nil => exact absurd rfl hlines
  | cons line more ih =>
      cases more with
      | nil => simp [renderLines, markedLines]
      | cons next more =>
          rw [renderLines, markedLines, List.flatten_cons, ih (List.cons_ne_nil _ _)]
          simp

/-- A reply on the wire is its lines one behind the other. -/
theorem toList_render (r : Reply) : r.render.toList = r.wireLines.flatten := by
  rw [render, String.toList_ofList, wireLines,
    ← renderLines_eq_flatten r.code r.messageLines_ne_nil, messageLines]
  split
  · next hnone => rw [hnone, renderLines, renderLines]
  · next hlines => rw [hlines]

theorem isWireLine_of_mem {code : UInt16} {lines : List (List Char)}
    (hlines : ∀ line ∈ lines, '\n' ∉ line) {piece : List Char}
    (hpiece : piece ∈ markedLines code lines) : IsWireLine code piece := by
  induction lines with
  | nil => cases hpiece
  | cons line more ih =>
      have hline := hlines line List.mem_cons_self
      have hmore := ih fun other hother => hlines other (List.mem_cons_of_mem line hother)
      cases more with
      | nil =>
          rw [markedLines, List.mem_singleton] at hpiece
          rw [hpiece]
          exact .mk ' ' line (.inl rfl) hline
      | cons next more =>
          rw [markedLines] at hpiece
          rcases List.mem_cons.mp hpiece with rfl | hpiece
          · exact .mk '-' line (.inr rfl) hline
          · exact hmore hpiece

theorem feed_notMem_codeText (code : UInt16) : '\n' ∉ codeText code := by
  intro hfeed
  rw [codeText, Nat.toString_eq_repr, Nat.toList_repr] at hfeed
  have hdigit := Nat.isDigit_of_mem_toDigits (by decide) (by decide) hfeed
  exact absurd hdigit (by decide)

/-- A line ends with its only line feed, and a carriage return stands before it. -/
theorem IsWireLine.split {code : UInt16} {piece : List Char} (hpiece : IsWireLine code piece) :
    ∃ body, piece = body ++ ['\r', '\n'] ∧ '\n' ∉ body ∧ codeText code <+: body := by
  cases hpiece with
  | mk mark line hmark hline =>
      refine ⟨codeText code ++ mark :: line, ?_, ?_, List.prefix_append _ _⟩
      · simp [renderLine, codeText]
      · have hmark' : mark ≠ '\n' := by
          rcases hmark with rfl | rfl <;> decide
        simp [feed_notMem_codeText, hline, Ne.symm hmark']

theorem cutBehindFeeds_flatten {pieces : List (List Char)}
    (hpieces : ∀ piece ∈ pieces, ∃ code, IsWireLine code piece) :
    cutBehindFeeds pieces.flatten = pieces := by
  induction pieces with
  | nil => rfl
  | cons piece more ih =>
      obtain ⟨code, hpiece⟩ := hpieces piece List.mem_cons_self
      obtain ⟨body, rfl, hbody, -⟩ := hpiece.split
      have hrest := ih fun other hother => hpieces other (List.mem_cons_of_mem _ hother)
      have hline : '\n' ∉ body ++ ['\r'] := by simp [hbody]
      have hcut := cutBehindFeeds_append hline more.flatten
      rw [hrest] at hcut
      rw [List.flatten_cons]
      simpa using hcut

/-- Cutting replies behind their line feeds gives their lines. -/
theorem cutBehindFeeds_render (replies : List Reply) :
    cutBehindFeeds (replies.flatMap fun r => r.render.toList) = replies.flatMap wireLines := by
  have hlines : (replies.flatMap fun r => r.render.toList) =
      (replies.flatMap wireLines).flatten := by
    induction replies with
    | nil => rfl
    | cons r replies ih =>
        rw [List.flatMap_cons, List.flatMap_cons, List.flatten_append, ih, toList_render]
  rw [hlines]
  apply cutBehindFeeds_flatten
  intro piece hpiece
  obtain ⟨r, -, hpiece⟩ := List.mem_flatMap.mp hpiece
  exact ⟨r.code, isWireLine_of_mem r.feed_notMem_messageLines hpiece⟩

/-- Every line feed stands behind a carriage return. -/
def FeedsReturned (text : List Char) : Prop :=
  ∀ before after, text = before ++ '\n' :: after → ∃ front, before = front ++ ['\r']

theorem FeedsReturned.append {front back : List Char} (hfront : FeedsReturned front)
    (hback : FeedsReturned back) : FeedsReturned (front ++ back) := by
  intro before after hsplit
  rcases List.append_eq_append_iff.mp hsplit with ⟨more, hbefore, hrest⟩ | ⟨more, hwhole, hrest⟩
  · obtain ⟨last, hlast⟩ := hback more after hrest
    exact ⟨front ++ last, by rw [hbefore, hlast, List.append_assoc]⟩
  · cases more with
    | nil =>
        obtain ⟨last, hlast⟩ := hback [] after hrest.symm
        cases last with
        | nil => cases hlast
        | cons => cases hlast
    | cons c more =>
        cases hrest
        exact hfront before more hwhole

theorem IsWireLine.feedsReturned {code : UInt16} {piece : List Char}
    (hpiece : IsWireLine code piece) : FeedsReturned piece := by
  obtain ⟨body, rfl, hbody, -⟩ := hpiece.split
  intro before after hsplit
  have hplain : '\n' ∉ body ++ ['\r'] := by simp [hbody]
  have hwhole : before ++ '\n' :: after = (body ++ ['\r']) ++ '\n' :: [] := by simp [← hsplit]
  rcases List.append_eq_append_iff.mp hwhole with ⟨more, hbefore, hrest⟩ | ⟨more, hbefore, hrest⟩
  · cases more with
    | nil => exact ⟨body, by simpa using hbefore.symm⟩
    | cons c more =>
        cases hrest
        simp [hbefore] at hplain
  · cases more with
    | nil => exact ⟨body, by simpa using hbefore⟩
    | cons c more => simp at hrest

/-- No message makes a reply with a line feed that stands alone. -/
theorem feedsReturned_render (r : Reply) : FeedsReturned r.render.toList := by
  have hlines : ∀ pieces : List (List Char), (∀ piece ∈ pieces, IsWireLine r.code piece) →
      FeedsReturned pieces.flatten := by
    intro pieces hpieces
    induction pieces with
    | nil =>
        intro before after hsplit
        cases before with
        | nil => cases hsplit
        | cons => cases hsplit
    | cons piece more ih =>
        rw [List.flatten_cons]
        exact (hpieces piece List.mem_cons_self).feedsReturned.append
          (ih fun other hother => hpieces other (List.mem_cons_of_mem piece hother))
  rw [toList_render]
  exact hlines _ fun piece hpiece => isWireLine_of_mem r.feed_notMem_messageLines hpiece

theorem digit?_digitChar (value : Nat) (hvalue : value < 10) :
    Ascii.digit? value.digitChar = some value ∧ value.digitChar.toNat < 0x80 ∧
      value.digitChar ≠ '+' := by
  decide +revert

theorem boundedNumber?_of_number? {c : Char} (hc : c ≠ '+') {rest : List Char} {value bound : Nat}
    (hnumber : Ascii.number? (c :: rest) = some value) (hbound : value < bound) :
    Ascii.boundedNumber? bound (c :: rest) = some value := by
  simp [Ascii.boundedNumber?, hc, hnumber, hbound]

/-- A code of three digits is read back. -/
theorem codeText_eq {code : UInt16} (hlow : 100 ≤ code.toNat) (hhigh : code.toNat ≤ 999) :
    ∃ a b c, codeText code = [a, b, c] ∧ a.toNat < 0x80 ∧ b.toNat < 0x80 ∧ c.toNat < 0x80 ∧
      readCode? [a, b, c] = some code := by
  obtain ⟨ha, hascii, hplus⟩ := digit?_digitChar (code.toNat / 100) (by omega)
  obtain ⟨hb, hbscii, -⟩ := digit?_digitChar (code.toNat / 10 % 10) (by omega)
  obtain ⟨hc, hcscii, -⟩ := digit?_digitChar (code.toNat % 10) (by omega)
  refine ⟨_, _, _, ?_, hascii, hbscii, hcscii, ?_⟩
  · rw [codeText, Nat.toString_eq_repr, Nat.toList_repr,
      Nat.toDigits_of_base_le (by decide) (by omega),
      Nat.toDigits_of_base_le (by decide) (by omega), Nat.toDigits_of_lt_base (by omega),
      Nat.div_div_eq_div_mul]
    rfl
  · have hvalue : (code.toNat / 100 * 10 + code.toNat / 10 % 10) * 10 + code.toNat % 10 =
        code.toNat := by omega
    have hnumber : Ascii.number? [(code.toNat / 100).digitChar, (code.toNat / 10 % 10).digitChar,
        (code.toNat % 10).digitChar] = some code.toNat := by
      simp [Ascii.number?, ha, hb, hc, hvalue]
    have hbound : code.toNat < 65536 := code.toNat_lt
    rw [readCode?, boundedNumber?_of_number? hplus hnumber hbound]
    simp

end Reply

open Reply

theorem parse_renderLine {code : UInt16} (hlow : 100 ≤ code.toNat) (hhigh : code.toNat ≤ 999)
    {mark : Char} (hmark : mark = ' ' ∨ mark = '-') {line : List Char} (hline : '\n' ∉ line) :
    ReplyLine.parse (String.ofList (renderLine code mark line)) =
      .ok ⟨code, mark = ' ', content line⟩ := by
  obtain ⟨a, b, c, hcode, ha, hb, hc, hread⟩ := codeText_eq hlow hhigh
  have htext : dropTailWhile isLineEnd (renderLine code mark line) =
      a :: b :: c :: mark :: dropTailWhile (· == '\r') line := by
    have hmarked : isLineEnd mark = false := by
      rcases hmark with rfl | rfl <;> decide
    have hshape : renderLine code mark line =
        [a, b, c] ++ mark :: ((line ++ ['\r']) ++ ['\n']) := by
      rw [renderLine, ← codeText, hcode]
      simp
    have hreturns : dropTailWhile isLineEnd line = dropTailWhile (· == '\r') line := by
      apply dropTailWhile_congr
      intro d hd
      have hne : d ≠ '\n' := fun heq => hline (heq ▸ hd)
      simp [isLineEnd, hne]
    rw [hshape, dropTailWhile_append_of_neg _ hmarked, dropTailWhile_concat _ (by decide),
      dropTailWhile_concat _ (by decide), hreturns]
    rfl
  simp only [ReplyLine.parse, String.toList_ofList, htext, hread, content]
  rw [if_pos ⟨ha, hb, hc, hmark⟩]

namespace ResponseBuilder

/-- A builder behind lines. -/
def addLines (b : ResponseBuilder) (lines : List String) : ResponseBuilder :=
  lines.foldl (fun b line => (b.addLine line).2) b

/-- The lines that a builder takes up, each with the reply that it completes. -/
def taken (b : ResponseBuilder) : List String → List (String × Option Response)
  | [] => []
  | line :: more =>
      ((b.addLine line).1.toOption.map fun complete => (line, complete)).toList ++
        (b.addLine line).2.taken more

/-- Lines that arrive where some lines are fed in order, any others in between being rejected when
they arrive. -/
inductive Sprinkled : ResponseBuilder → List String → List String → Prop
  | nil (b : ResponseBuilder) : Sprinkled b [] []
  | fed (b : ResponseBuilder) (line : String) (lines arriving : List String)
      (hrest : Sprinkled (b.addLine line).2 lines arriving) :
      Sprinkled b (line :: lines) (line :: arriving)
  | rejected (b : ResponseBuilder) (line : String) (lines arriving : List String) (e : ReplyError)
      (hreject : (b.addLine line).1 = .error e)
      (hrest : Sprinkled (b.addLine line).2 lines arriving) :
      Sprinkled b lines (line :: arriving)

/-- A line that does not fit leaves everything as it was. -/
theorem addLine_of_error {b : ResponseBuilder} {line : String} {e : ReplyError}
    (hreject : (b.addLine line).1 = .error e) : (b.addLine line).2 = b := by
  rw [addLine] at hreject ⊢
  split
  · rfl
  · next parsed hparse =>
      rw [hparse] at hreject
      simp only at hreject ⊢
      split at hreject
      · cases hreject
      · next hfits => rw [if_neg hfits]

/-- Rejected lines make no difference. -/
theorem Sprinkled.eq {b : ResponseBuilder} {lines arriving : List String}
    (hsprinkled : Sprinkled b lines arriving) :
    b.taken arriving = b.taken lines ∧ b.addLines arriving = b.addLines lines := by
  induction hsprinkled with
  | nil b => exact ⟨rfl, rfl⟩
  | fed b line lines arriving hrest ih =>
      refine ⟨?_, ih.2⟩
      rw [taken, taken, ih.1]
  | rejected b line lines arriving e hreject hrest ih =>
      rw [addLine_of_error hreject] at ih
      rw [taken, addLines, List.foldl_cons, hreject, addLine_of_error hreject]
      exact ih

/-- A builder reads lines of a code. -/
def Reads (b : ResponseBuilder) (code : UInt16) : Prop :=
  ∀ other ∈ b.code, other = code

theorem addLine_renderLine {b : ResponseBuilder} {code : UInt16} (hlow : 100 ≤ code.toNat)
    (hhigh : code.toNat ≤ 999) (hreads : b.Reads code) (mark : Char)
    (hmark : mark = ' ' ∨ mark = '-') {line : List Char} (hline : '\n' ∉ line) :
    b.addLine (String.ofList (renderLine code mark line)) =
      (b.push ⟨code, mark = ' ', content line⟩).map .ok id := by
  have hfits : b.code.all (· == code) = true := by
    cases hcode : b.code with
    | none => rfl
    | some other =>
        have hother := hreads other hcode
        simp [hother]
  rw [addLine, parse_renderLine hlow hhigh hmark hline]
  simp only [hfits, if_true]
  rfl

/-- The lines of one reply complete it, whatever was read of it before. -/
theorem taken_markedLines {b : ResponseBuilder} {code : UInt16} (hlow : 100 ≤ code.toNat)
    (hhigh : code.toNat ≤ 999) (hreads : b.Reads code) {lines : List (List Char)}
    (hlines : lines ≠ []) (hplain : ∀ line ∈ lines, '\n' ∉ line) :
    b.taken ((markedLines code lines).map String.ofList) =
        completedBy ⟨code, b.lines ++ lines.map content⟩ (markedLines code lines) ∧
      b.addLines ((markedLines code lines).map String.ofList) = {} := by
  -- The lines read so far stand in the builder, so it is another one behind each line.
  induction lines generalizing b with
  | nil => exact absurd rfl hlines
  | cons line more ih =>
      have hline := hplain line List.mem_cons_self
      cases more with
      | nil =>
          have hadd := addLine_renderLine hlow hhigh hreads ' ' (.inl rfl) hline
          have hpush : b.push ⟨code, ' ' = ' ', content line⟩ =
              (some ⟨code, b.lines ++ [content line]⟩, {}) := rfl
          rw [hpush] at hadd
          simp [markedLines, taken, addLines, hadd, completedBy, Except.toOption]
      | cons next more =>
          have hadd := addLine_renderLine hlow hhigh hreads '-' (.inr rfl) hline
          -- Behind the first line the builder holds one line more and the code.
          let held : ResponseBuilder := ⟨some code, b.lines ++ [content line]⟩
          have hpush : b.push ⟨code, '-' = ' ', content line⟩ = (none, held) := rfl
          rw [hpush] at hadd
          have hheld : held.Reads code := by
            rintro other ⟨⟩
            rfl
          obtain ⟨htaken, hbehind⟩ := ih hheld (List.cons_ne_nil _ _)
            fun other hother => hplain other (List.mem_cons_of_mem line hother)
          rw [markedLines, List.map_cons, taken, addLines, List.foldl_cons, hadd,
            completedBy_cons _ _ (markedLines_ne_nil code (List.cons_ne_nil next more))]
          refine ⟨?_, hbehind⟩
          have hlines : b.lines ++ (line :: next :: more).map content =
              held.lines ++ (next :: more).map content := by simp [held]
          rw [hlines, ← htaken]
          rfl

theorem addLines_append (b : ResponseBuilder) (front back : List String) :
    b.addLines (front ++ back) = (b.addLines front).addLines back :=
  List.foldl_append

theorem taken_append (b : ResponseBuilder) (front back : List String) :
    b.taken (front ++ back) = b.taken front ++ (b.addLines front).taken back := by
  induction front generalizing b with
  | nil => rfl
  | cons line front ih =>
      rw [List.cons_append, taken, taken, ih, List.append_assoc]
      rfl

/-- The lines of replies complete one reply after the other. -/
theorem taken_wireLines {replies : List Reply} (hrange : ∀ r ∈ replies, r.InRange) :
    ({} : ResponseBuilder).taken ((replies.flatMap wireLines).map String.ofList) =
        replies.flatMap (fun r => completedBy r.asRead r.wireLines) ∧
      ({} : ResponseBuilder).addLines ((replies.flatMap wireLines).map String.ofList) = {} := by
  induction replies with
  | nil => exact ⟨rfl, rfl⟩
  | cons r replies ih =>
      obtain ⟨hlow, hhigh⟩ := hrange r List.mem_cons_self
      have hfresh : ({} : ResponseBuilder).Reads r.code := by rintro other ⟨⟩
      obtain ⟨htaken, hbehind⟩ := taken_markedLines hlow hhigh hfresh r.messageLines_ne_nil
        r.feed_notMem_messageLines
      obtain ⟨hmore, hlast⟩ := ih fun other hother => hrange other (List.mem_cons_of_mem r hother)
      rw [← wireLines] at htaken hbehind
      rw [List.flatMap_cons, List.map_append, taken_append, addLines_append, htaken, hbehind,
        List.flatMap_cons, hmore, hlast]
      exact ⟨rfl, rfl⟩

/-- Replies survive the wire.  Whatever replies are written one behind the other and cut behind
their line feeds, a builder that is fed these pieces in order completes each reply at its last line,
with its code and the lines of its message, and nothing else; other lines may arrive anywhere in
between as long as they are rejected.  A line that is rejected leaves the builder as it was.  No
message makes a line that does not begin with the code of its reply, or a line feed without a
carriage return before it. -/
theorem taken_render {replies : List Reply} (hrange : ∀ r ∈ replies, r.InRange)
    {arriving : List String}
    (harriving : Sprinkled {} ((cutBehindFeeds (replies.flatMap fun r => r.render.toList)).map
      String.ofList) arriving) :
    (({} : ResponseBuilder).taken arriving =
        replies.flatMap (fun r => completedBy r.asRead r.wireLines) ∧
      ({} : ResponseBuilder).addLines arriving = {}) ∧
    (∀ (b : ResponseBuilder) (line : String) (e : ReplyError),
      (b.addLine line).1 = .error e → (b.addLine line).2 = b) ∧
    ∀ r : Reply, cutBehindFeeds r.render.toList = r.wireLines ∧
      (∀ line ∈ r.wireLines, codeText r.code <+: line) ∧ FeedsReturned r.render.toList := by
  refine ⟨?_, fun b line e => addLine_of_error, ?_⟩
  · obtain ⟨htaken, hbehind⟩ := harriving.eq
    rw [htaken, hbehind, cutBehindFeeds_render]
    exact taken_wireLines hrange
  · intro r
    refine ⟨?_, ?_, feedsReturned_render r⟩
    · have hcut := cutBehindFeeds_render [r]
      simpa using hcut
    · intro line hline
      obtain ⟨body, rfl, -, hcode⟩ :=
        (isWireLine_of_mem r.feed_notMem_messageLines hline).split
      exact hcode.trans (List.prefix_append body _)

theorem taken_render_interrupted :
    let replies : List Reply := [⟨250, "a\n\nb\r\r"⟩, ⟨354, ""⟩]
    let arriving :=
      ["25", "250-a\r\n", "550 x\r\n", "250-\r\n", "250 b\r\r\r\n", "abc def", "354 \r\n"]
    (∀ r ∈ replies, r.InRange) ∧
      ({} : ResponseBuilder).taken arriving =
        [("250-a\r\n", none), ("250-\r\n", none), ("250 b\r\r\r\n", some ⟨250, ["a", "", "b"]⟩),
          ("354 \r\n", some ⟨354, [""]⟩)] := by
  intro replies arriving
  have hrange : ∀ r ∈ replies, r.InRange := by decide
  have hpieces : (cutBehindFeeds (replies.flatMap fun r => r.render.toList)).map String.ofList =
      ["250-a\r\n", "250-\r\n", "250 b\r\r\r\n", "354 \r\n"] := by decide +kernel
  have harriving : Sprinkled {} ((cutBehindFeeds (replies.flatMap fun r => r.render.toList)).map
      String.ofList) arriving := by
    rw [hpieces]
    refine .rejected _ _ _ _ (.malformed "25") (by decide +kernel) (.fed _ _ _ _ ?_)
    refine .rejected _ _ _ _ (.codeChanged 250 550) (by decide +kernel) ?_
    refine .fed _ _ _ _ (.fed _ _ _ _ ?_)
    exact .rejected _ _ _ _ (.malformed "abc def") (by decide +kernel) (.fed _ _ _ _ (.nil _))
  refine ⟨hrange, (taken_render hrange harriving).1.1.trans ?_⟩
  decide +kernel

end ResponseBuilder
end MailIntake
