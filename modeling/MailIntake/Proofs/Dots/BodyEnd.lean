import MailIntake.Dots
import Mathlib.Data.List.Infix
/-!
Where a body on the wire ends, and what it says.  A body ends with the first bytes that show
CR LF, a dot, CR LF, where a CR LF is thought before the first byte.  It says what stands before its
last line, less one dot at the start of every line that has one.  The decoder finds exactly this end
(`feed_wholeBody`, `feed_openBody`), and keeps what the body says unless that is over the limit.
-/
namespace MailIntake

def lineEnd : List UInt8 := [byteCR, byteLF]

def bodyEnd : List UInt8 := [byteCR, byteLF, byteDot, byteCR, byteLF]

/-- The bytes read so far end a body, with a line end thought before them. -/
def EndsBody (read : List UInt8) : Prop :=
  bodyEnd <:+ lineEnd ++ read

instance (read : List UInt8) : Decidable (EndsBody read) :=
  inferInstanceAs (Decidable (bodyEnd <:+ lineEnd ++ read))

/-- A body up to the first place where it ends. -/
structure WholeBody (wire : List UInt8) : Prop where
  ends : EndsBody wire
  first : ∀ front, front <+: wire → EndsBody front → front = wire

/-- The beginning of a body that has not ended anywhere. -/
def OpenBody (wire : List UInt8) : Prop :=
  ∀ front, front <+: wire → ¬ EndsBody front

instance (wire : List UInt8) : Decidable (OpenBody wire) :=
  decidable_of_iff (∀ front ∈ wire.inits, ¬ EndsBody front) (by simp [OpenBody])

instance (wire : List UInt8) : Decidable (WholeBody wire) :=
  decidable_of_iff (EndsBody wire ∧ ∀ front ∈ wire.inits, EndsBody front → front = wire)
    ⟨fun ⟨hends, hfirst⟩ => ⟨hends, by simpa using hfirst⟩,
      fun ⟨hends, hfirst⟩ => ⟨hends, by simpa using hfirst⟩⟩

/-- The bytes without the dots that stand at the start of a line. -/
def unstuffFrom (place : StuffPlace) : List UInt8 → List UInt8
  | [] => []
  | b :: rest =>
      if place = .lineStart ∧ b = byteDot then unstuffFrom (place.next b) rest
      else b :: unstuffFrom (place.next b) rest

/-- What bytes that begin at the start of a line say. -/
def unstuff (wire : List UInt8) : List UInt8 :=
  unstuffFrom .lineStart wire

/-- What a whole body says; its last three bytes are the lone dot and the line end behind it. -/
def bodyText (wire : List UInt8) : List UInt8 :=
  unstuff (wire.take (wire.length - 3))

def BodyOutcome.ofText (limit : Nat) (text : List UInt8) : BodyOutcome :=
  if text.length ≤ limit then .complete text else .tooBig

def StuffPlace.behind (wire : List UInt8) : StuffPlace :=
  wire.foldl StuffPlace.next .lineStart

theorem unstuffFrom_concat (place : StuffPlace) (wire : List UInt8) (b : UInt8) :
    unstuffFrom place (wire ++ [b]) =
      unstuffFrom place wire ++
        if wire.foldl StuffPlace.next place = .lineStart ∧ b = byteDot then [] else [b] := by
  induction wire generalizing place with
  | nil => rfl
  | cons a wire ih =>
      simp only [List.cons_append, unstuffFrom, ih, List.foldl_cons]
      split
      · rfl
      · rfl

theorem unstuff_concat (wire : List UInt8) (b : UInt8) :
    unstuff (wire ++ [b]) =
      unstuff wire ++ if StuffPlace.behind wire = .lineStart ∧ b = byteDot then [] else [b] :=
  unstuffFrom_concat .lineStart wire b

theorem StuffPlace.behind_concat (wire : List UInt8) (b : UInt8) :
    StuffPlace.behind (wire ++ [b]) = (StuffPlace.behind wire).next b := by
  simp [behind]

theorem OpenBody.of_append {front back : List UInt8} (hopen : OpenBody (front ++ back)) :
    OpenBody front := fun piece hpiece =>
  hopen piece (hpiece.trans (List.prefix_append front back))

theorem OpenBody.concat {wire : List UInt8} {b : UInt8} (hopen : OpenBody wire)
    (hb : ¬ EndsBody (wire ++ [b])) : OpenBody (wire ++ [b]) := by
  intro front hfront
  rcases List.prefix_concat_iff.mp hfront with rfl | hbefore
  · exact hb
  · exact hopen front hbefore

theorem OpenBody.wholeBody {wire : List UInt8} {b : UInt8} (hopen : OpenBody wire)
    (hb : EndsBody (wire ++ [b])) : WholeBody (wire ++ [b]) where
  ends := hb
  first front hfront hends := by
    rcases List.prefix_concat_iff.mp hfront with rfl | hbefore
    · rfl
    · exact absurd hends (hopen front hbefore)

theorem openBody_nil : OpenBody [] := by
  intro front hfront
  rw [List.prefix_nil.mp hfront]
  decide

theorem EndsBody.split {wire : List UInt8} (hends : EndsBody wire) :
    ∃ content, wire = content ++ [byteDot, byteCR, byteLF] ∧
      [byteCR, byteLF] <:+ lineEnd ++ content := by
  obtain ⟨before, hbefore⟩ := hends
  have hcut : before ++ lineEnd ++ [byteDot, byteCR, byteLF] = lineEnd ++ wire := by
    rw [← hbefore, List.append_assoc]
    rfl
  have hprefix : lineEnd <+: before ++ lineEnd := by
    refine List.prefix_of_prefix_length_le (List.prefix_append lineEnd wire) ?_ (by simp)
    rw [← hcut]
    exact List.prefix_append _ _
  obtain ⟨content, hcontent⟩ := hprefix
  refine ⟨content, ?_, ?_⟩
  · rw [← hcontent, List.append_assoc] at hcut
    exact (List.append_cancel_left hcut).symm
  · rw [hcontent]
    exact List.suffix_append before lineEnd

/-- A whole body is the beginning of a body up to the start of a line, and a lone dot there. -/
theorem WholeBody.split {wire : List UInt8} (hwhole : WholeBody wire) :
    ∃ content, wire = content ++ [byteDot, byteCR, byteLF] ∧
      [byteCR, byteLF] <:+ lineEnd ++ content ∧ OpenBody content := by
  obtain ⟨content, hwire, hline⟩ := hwhole.ends.split
  refine ⟨content, hwire, hline, ?_⟩
  intro front hfront hends
  have heq := hwhole.first front (hfront.trans ⟨_, hwire.symm⟩) hends
  have hlength := hfront.length_le
  rw [heq, hwire, List.length_append, List.length_cons] at hlength
  omega

namespace BodyPlace

/-- The place behind a byte that does not end the body. -/
def next (place : BodyPlace) (b : UInt8) : BodyPlace :=
  match place with
  | .lineStart => if b = byteDot then .afterDot else if b = byteCR then .afterCr else .text
  | .text => if b = byteCR then .afterCr else .text
  | .afterDot => if b = byteCR then .afterDotCr else .text
  | .afterCr | .afterDotCr =>
      if b = byteLF then .lineStart else if b = byteCR then .afterCr else .text

/-- What a place says about the bytes before it. -/
structure Tells (place : BodyPlace) (read : List UInt8) : Prop where
  lineStart : place = .lineStart ↔ [byteCR, byteLF] <:+ lineEnd ++ read
  dot : place = .afterDot ↔ [byteCR, byteLF, byteDot] <:+ lineEnd ++ read
  dotCr : place = .afterDotCr ↔ [byteCR, byteLF, byteDot, byteCR] <:+ lineEnd ++ read
  cr : place = .afterCr ∨ place = .afterDotCr ↔ [byteCR] <:+ lineEnd ++ read

theorem tells_nil : Tells .lineStart [] := by
  constructor <;> decide

/-- A list ends with `more ++ [a]` if its last element is `a` and what stands before ends with
`more`. -/
theorem concat_suffix_concat_iff (more front : List UInt8) (a b : UInt8) :
    more ++ [a] <:+ front ++ [b] ↔ a = b ∧ more <:+ front := by
  rw [← List.reverse_prefix, List.reverse_concat, List.reverse_concat, List.cons_prefix_cons,
    List.reverse_prefix]

variable {place : BodyPlace} {read : List UInt8}

/-- A body ends with a line feed behind a lone dot and a carriage return, and nowhere else. -/
theorem Tells.endsBody_concat_iff (htells : Tells place read) (b : UInt8) :
    EndsBody (read ++ [b]) ↔ place = .afterDotCr ∧ b = byteLF := by
  have hsplit := concat_suffix_concat_iff [byteCR, byteLF, byteDot, byteCR] (lineEnd ++ read)
    byteLF b
  rw [EndsBody, ← List.append_assoc, htells.dotCr]
  exact hsplit.trans ⟨fun ⟨hb, hread⟩ => ⟨hread, hb.symm⟩, fun ⟨hread, hb⟩ => ⟨hb.symm, hread⟩⟩

theorem byte_ne : byteCR ≠ byteLF ∧ byteCR ≠ byteDot ∧ byteLF ≠ byteDot := by
  decide

theorem next_eq_lineStart_iff (place : BodyPlace) (b : UInt8) :
    place.next b = .lineStart ↔ byteLF = b ∧ (place = .afterCr ∨ place = .afterDotCr) := by
  have hne := byte_ne
  cases place <;> grind [BodyPlace.next]

theorem next_eq_afterDot_iff (place : BodyPlace) (b : UInt8) :
    place.next b = .afterDot ↔ byteDot = b ∧ place = .lineStart := by
  have hne := byte_ne
  cases place <;> grind [BodyPlace.next]

theorem next_eq_afterDotCr_iff (place : BodyPlace) (b : UInt8) :
    place.next b = .afterDotCr ↔ byteCR = b ∧ place = .afterDot := by
  have hne := byte_ne
  cases place <;> grind [BodyPlace.next]

theorem next_eq_afterCr_iff (place : BodyPlace) (b : UInt8) :
    place.next b = .afterCr ∨ place.next b = .afterDotCr ↔ byteCR = b := by
  have hne := byte_ne
  cases place <;> grind [BodyPlace.next]

theorem Tells.next (htells : Tells place read) (b : UInt8) :
    Tells (place.next b) (read ++ [b]) := by
  have hcr := concat_suffix_concat_iff [] (lineEnd ++ read) byteCR b
  have hline := concat_suffix_concat_iff [byteCR] (lineEnd ++ read) byteLF b
  have hdot := concat_suffix_concat_iff [byteCR, byteLF] (lineEnd ++ read) byteDot b
  have hdotCr := concat_suffix_concat_iff [byteCR, byteLF, byteDot] (lineEnd ++ read) byteCR b
  rw [← htells.cr] at hline
  rw [← htells.lineStart] at hdot
  rw [← htells.dot] at hdotCr
  simp only [List.nil_append, List.cons_append, List.append_assoc, List.nil_suffix, and_true]
    at hcr hline hdot hdotCr
  constructor
  · rw [hline, next_eq_lineStart_iff]
  · rw [hdot, next_eq_afterDot_iff]
  · rw [hdotCr, next_eq_afterDotCr_iff]
  · rw [hcr, next_eq_afterCr_iff]

/-- Where a dot would be stuffed at a place. -/
def stuffPlace : BodyPlace → StuffPlace
  | .lineStart => .lineStart
  | .text | .afterDot => .inside
  | .afterCr | .afterDotCr => .afterCr

theorem stuffPlace_next (place : BodyPlace) (b : UInt8) :
    (place.next b).stuffPlace = place.stuffPlace.next b := by
  have hne := byte_ne
  cases place <;> grind [BodyPlace.next, stuffPlace, StuffPlace.next]

/-- What has been read and belongs to the text unless the body ends with the next byte. -/
def owed (place : BodyPlace) : List UInt8 :=
  if place = .afterDotCr then [byteCR] else []

end BodyPlace

namespace DotDecoder

/-- A decoder that was given the text `kept` to keep. -/
structure Keeps (d : DotDecoder) (kept : List UInt8) : Prop where
  body : d.body.toList = kept.take d.limit
  overflow : d.overflow = decide (d.limit < kept.length)

theorem Keeps.keep {d : DotDecoder} {kept : List UInt8} (hkeeps : d.Keeps kept) (b : UInt8) :
    (d.keep b).Keeps (kept ++ [b]) := by
  have hsize : d.body.size = min d.limit kept.length := by
    rw [← Array.length_toList, hkeeps.body, List.length_take]
  by_cases hroom : kept.length < d.limit
  · have hlt : d.body.size < d.limit := by omega
    have hover : d.overflow = false := by
      rw [hkeeps.overflow, decide_eq_false_iff_not]
      omega
    rw [DotDecoder.keep, if_pos hlt]
    constructor
    · rw [Array.toList_push, hkeeps.body, List.take_of_length_le (by omega),
        List.take_of_length_le (by simp; omega)]
    · simp [hover]
      omega
  · have hlt : ¬ d.body.size < d.limit := by omega
    rw [DotDecoder.keep, if_neg hlt]
    constructor
    · change d.body.toList = (kept ++ [b]).take d.limit
      rw [List.take_append_of_le_length (Nat.le_of_not_lt hroom)]
      exact hkeeps.body
    · simp
      omega

theorem Keeps.finish {d : DotDecoder} {kept : List UInt8} (hkeeps : d.Keeps kept) :
    d.finish = .ofText d.limit kept := by
  rw [DotDecoder.finish, BodyOutcome.ofText, hkeeps.overflow, hkeeps.body]
  by_cases hover : d.limit < kept.length
  · simp [hover]
  · rw [List.take_of_length_le (by omega)]
    simp [hover, Nat.le_of_not_lt hover]

@[simp]
theorem limit_keep (d : DotDecoder) (b : UInt8) : (d.keep b).limit = d.limit := by
  rw [keep]
  split <;> rfl

@[simp]
theorem place_keep (d : DotDecoder) (b : UInt8) : (d.keep b).place = d.place := by
  rw [keep]
  split <;> rfl

@[simp]
theorem limit_step (d : DotDecoder) (b : UInt8) : (d.step b).limit = d.limit := by
  rw [step]
  split <;> simp [plain, behindCr, apply_ite DotDecoder.limit]

/-- No more than the limit is kept. -/
theorem size_keep_le {d : DotDecoder} (hsize : d.body.size ≤ d.limit) (b : UInt8) :
    (d.keep b).body.size ≤ d.limit := by
  rw [keep]
  split
  · next hroom =>
      rw [Array.size_push]
      exact hroom
  · exact hsize

theorem size_step_le {d : DotDecoder} (hsize : d.body.size ≤ d.limit) (b : UInt8) :
    (d.step b).body.size ≤ d.limit := by
  have hkeep := size_keep_le hsize b
  rw [step]
  cases d.place with
  | lineStart =>
      simp only
      split
      · exact hsize
      · exact hkeep
  | text => exact hkeep
  | afterCr => exact hkeep
  | afterDot =>
      simp only
      split
      · exact hsize
      · exact hkeep
  | afterDotCr =>
      have hboth := size_keep_le (d := d.keep byteCR) (b := b) ?_
      · rw [limit_keep] at hboth
        exact hboth
      · rw [limit_keep]
        exact size_keep_le hsize byteCR

theorem place_step (d : DotDecoder) (b : UInt8) : (d.step b).place = d.place.next b := by
  obtain ⟨limit, place, body, overflow, done⟩ := d
  cases place with
  | lineStart =>
      simp only [step, BodyPlace.next]
      split
      · rfl
      · rfl
  | text => rfl
  | afterCr => rfl
  | afterDot =>
      simp only [step, BodyPlace.next]
      split
      · rfl
      · next hb => simp [plain, hb]
  | afterDotCr => rfl

theorem Keeps.plain {d : DotDecoder} {kept : List UInt8} (hkeeps : d.Keeps kept) (b : UInt8) :
    (d.plain b).Keeps (kept ++ [b]) :=
  ⟨(hkeeps.keep b).body, (hkeeps.keep b).overflow⟩

theorem Keeps.behindCr {d : DotDecoder} {kept : List UInt8} (hkeeps : d.Keeps kept) (b : UInt8) :
    (d.behindCr b).Keeps (kept ++ [b]) :=
  ⟨(hkeeps.keep b).body, (hkeeps.keep b).overflow⟩

theorem plain_place_ne (d : DotDecoder) (b : UInt8) : (d.plain b).place ≠ .afterDotCr := by
  rw [plain]
  split <;> simp

theorem behindCr_place_ne (d : DotDecoder) (b : UInt8) : (d.behindCr b).place ≠ .afterDotCr := by
  rw [behindCr]
  split
  · simp
  · split <;> simp

/-- A decoder that has read the beginning of a body. -/
structure Holds (d : DotDecoder) (limit : Nat) (read : List UInt8) : Prop where
  limit_eq : d.limit = limit
  tells : d.place.Tells read
  stuffPlace_eq : d.place.stuffPlace = StuffPlace.behind read
  keeps : ∃ kept, unstuff read = kept ++ d.place.owed ∧ d.Keeps kept

theorem holds_nil (limit : Nat) : Holds { limit } limit [] where
  limit_eq := rfl
  tells := BodyPlace.tells_nil
  stuffPlace_eq := rfl
  keeps := ⟨[], rfl, ⟨by simp, by simp⟩⟩

variable {d : DotDecoder} {limit : Nat} {read : List UInt8}

theorem endsWith_iff (d : DotDecoder) (b : UInt8) :
    d.endsWith b = true ↔ d.place = .afterDotCr ∧ b = byteLF := by
  simp [endsWith]

/-- The decoder sees the end of a body where it is. -/
theorem Holds.endsWith_iff_endsBody (hholds : d.Holds limit read) (b : UInt8) :
    d.endsWith b = true ↔ EndsBody (read ++ [b]) := by
  rw [hholds.tells.endsBody_concat_iff, endsWith_iff]

/-- What a byte that does not end the body adds to what has been kept. -/
theorem Holds.keeps_step (hholds : d.Holds limit read) {b : UInt8} :
    ∃ kept, unstuff (read ++ [b]) = kept ++ (d.step b).place.owed ∧ (d.step b).Keeps kept := by
  obtain ⟨kept, htext, hkeeps⟩ := hholds.keeps
  have hplace := hholds.stuffPlace_eq
  rw [unstuff_concat, ← hplace, htext, step]
  cases hd : d.place with
  | lineStart =>
      by_cases hb : b = byteDot
      · refine ⟨kept, ?_, ?_⟩
        · simp [hb, BodyPlace.stuffPlace, BodyPlace.owed]
        · simp only [hb, if_true]
          exact ⟨hkeeps.body, hkeeps.overflow⟩
      · refine ⟨kept ++ [b], ?_, ?_⟩
        · simp [hb, BodyPlace.owed, plain_place_ne]
        · simp only [hb, if_false]
          exact hkeeps.plain b
  | text =>
      refine ⟨kept ++ [b], ?_, hkeeps.plain b⟩
      simp [BodyPlace.stuffPlace, BodyPlace.owed, plain_place_ne]
  | afterCr =>
      refine ⟨kept ++ [b], ?_, hkeeps.behindCr b⟩
      simp [BodyPlace.stuffPlace, BodyPlace.owed, behindCr_place_ne]
  | afterDot =>
      by_cases hb : b = byteCR
      · refine ⟨kept, ?_, ?_⟩
        · simp [hb, BodyPlace.stuffPlace, BodyPlace.owed]
        · simp only [hb, if_true]
          exact ⟨hkeeps.body, hkeeps.overflow⟩
      · refine ⟨kept ++ [b], ?_, ?_⟩
        · simp [hb, BodyPlace.stuffPlace, BodyPlace.owed, plain_place_ne]
        · simp only [hb, if_false]
          exact hkeeps.plain b
  | afterDotCr =>
      refine ⟨kept ++ [byteCR] ++ [b], ?_, (hkeeps.keep byteCR).behindCr b⟩
      simp [BodyPlace.stuffPlace, BodyPlace.owed, behindCr_place_ne]

theorem Holds.step (hholds : d.Holds limit read) (b : UInt8) :
    (d.step b).Holds limit (read ++ [b]) where
  limit_eq := by rw [limit_step, hholds.limit_eq]
  tells := by
    rw [place_step]
    exact hholds.tells.next b
  stuffPlace_eq := by
    rw [place_step, BodyPlace.stuffPlace_next, hholds.stuffPlace_eq, StuffPlace.behind_concat]
  keeps := hholds.keeps_step

/-- A decoder reads on through bytes in which the body does not end. -/
theorem Holds.feed (hholds : d.Holds limit read) {more : List UInt8}
    (hopen : OpenBody (read ++ more)) :
    ∃ e, d.feed more = (none, e) ∧ e.Holds limit (read ++ more) := by
  induction more generalizing d read with
  | nil => exact ⟨d, rfl, by rwa [List.append_nil]⟩
  | cons b more ih =>
      have hsplit : read ++ b :: more = read ++ [b] ++ more := by simp
      rw [hsplit] at hopen ⊢
      have hgoes : ¬ d.endsWith b = true := by
        rw [hholds.endsWith_iff_endsBody]
        exact hopen _ (List.prefix_append (read ++ [b]) more)
      obtain ⟨e, hfeed, he⟩ := ih (hholds.step b) hopen
      refine ⟨e, ?_, he⟩
      rw [DotDecoder.feed, if_neg hgoes, hfeed]

theorem feed_openBody (limit : Nat) {wire : List UInt8} (hopen : OpenBody wire) :
    ∃ d, ({ limit } : DotDecoder).feed wire = (none, d) ∧ d.Holds limit wire :=
  (holds_nil limit).feed hopen

/-- The line that ends a body: a lone dot. -/
theorem feed_lastLine (hplace : d.place = .lineStart) (rest : List UInt8) :
    d.feed ([byteDot, byteCR, byteLF] ++ rest) =
      (some rest, { d with place := .afterDotCr, done := true }) := by
  have hne := BodyPlace.byte_ne
  simp [DotDecoder.feed, endsWith, DotDecoder.step, hplace]

/-- A decoder finds the end of a body and leaves what stands behind it. -/
theorem feed_wholeBody (limit : Nat) {wire : List UInt8} (hwhole : WholeBody wire)
    (rest : List UInt8) :
    ∃ e, ({ limit } : DotDecoder).feed (wire ++ rest) = (some rest, e) ∧
      e.finish = .ofText limit (bodyText wire) := by
  obtain ⟨content, hwire, hline, hopen⟩ := hwhole.split
  obtain ⟨d, hfeed, hholds⟩ := feed_openBody limit hopen
  have hplace : d.place = .lineStart := hholds.tells.lineStart.mpr hline
  obtain ⟨kept, htext, hkeeps⟩ := hholds.keeps
  have hkept : unstuff content = kept := by
    rw [htext, hplace]
    simp [BodyPlace.owed]
  refine ⟨{ d with place := .afterDotCr, done := true }, ?_, ?_⟩
  · rw [hwire, List.append_assoc, feed_append_of_none hfeed]
    exact feed_lastLine hplace rest
  · have hfinish := hkeeps.finish
    rw [hholds.limit_eq] at hfinish
    rw [bodyText, hwire, List.length_append, List.length_cons, List.length_cons,
      List.length_singleton, Nat.add_sub_cancel, List.take_left, hkept, ← hfinish]
    rfl

/-- What a decoder that has read the beginning of a body does with one more byte. -/
theorem endsWith_iff_of_feed {wire : List UInt8} (hopen : OpenBody wire)
    (hfeed : ({ limit } : DotDecoder).feed wire = (none, d)) (b : UInt8) :
    d.endsWith b = true ↔ EndsBody (wire ++ [b]) := by
  obtain ⟨e, hother, hholds⟩ := feed_openBody limit hopen
  rw [hfeed] at hother
  cases hother
  exact hholds.endsWith_iff_endsBody b

theorem feed_concat {wire : List UInt8} {b : UInt8}
    (hfeed : ({ limit } : DotDecoder).feed wire = (none, d)) (hb : ¬ d.endsWith b) :
    ({ limit } : DotDecoder).feed (wire ++ [b]) = (none, d.step b) := by
  rw [feed_append_of_none hfeed, DotDecoder.feed, if_neg hb, DotDecoder.feed]

theorem finish_of_feed {wire : List UInt8} {b : UInt8} (hopen : OpenBody wire)
    (hfeed : ({ limit } : DotDecoder).feed wire = (none, d)) (hb : d.endsWith b) :
    d.finish = .ofText limit (bodyText (wire ++ [b])) := by
  have hwhole := hopen.wholeBody ((endsWith_iff_of_feed hopen hfeed b).mp hb)
  obtain ⟨e, hend, hfinish⟩ := feed_wholeBody limit hwhole []
  rw [List.append_nil, feed_append_of_none hfeed, DotDecoder.feed, if_pos hb] at hend
  cases hend
  exact hfinish

end DotDecoder

/-- A lone dot behind a bare line feed ends nothing, and stuffing is undone. -/
example : OpenBody [byteLF, byteDot, byteLF] ∧
    bodyText [byteDot, byteDot, byteCR, byteLF, byteDot, byteCR, byteLF] =
      [byteDot, byteCR, byteLF] := by
  decide

end MailIntake
