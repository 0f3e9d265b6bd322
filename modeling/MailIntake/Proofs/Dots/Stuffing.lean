import MailIntake.Proofs.Dots.BodyEnd
/-!
Bodies there and back.  A sender puts a second dot before each dot at the start of a line
(`stuff_concat`) and ends the body with a lone dot; the decoder gives back the body as it was, finds
its end where the sender put it, and counts no stuffed dot against the limit (`feed_stuffed`).
-/
namespace MailIntake

/-- Bytes behind which a line begins. -/
def EndsLine (text : List UInt8) : Prop :=
  text = [] ∨ lineEnd <:+ text

instance (text : List UInt8) : Decidable (EndsLine text) :=
  inferInstanceAs (Decidable (_ ∨ _))

def lastLine : List UInt8 := [byteDot, byteCR, byteLF]

namespace StuffPlace

theorem next_eq_lineStart_iff (place : StuffPlace) (b : UInt8) :
    place.next b = .lineStart ↔ place = .afterCr ∧ b = byteLF := by
  rw [StuffPlace.next]
  split
  · next hline => simp [hline]
  · next hline =>
      split
      · simpa using hline
      · simpa using hline

theorem next_eq_afterCr_iff (place : StuffPlace) (b : UInt8) :
    place.next b = .afterCr ↔ b = byteCR := by
  rw [StuffPlace.next]
  split
  · next hline =>
      rw [hline.2]
      decide
  · split
    · next hb => simp [hb]
    · next hb => simp [hb]

theorem behind_eq_afterCr_iff (text : List UInt8) :
    behind text = .afterCr ↔ [byteCR] <:+ text := by
  rcases List.eq_nil_or_concat' text with rfl | ⟨front, b, rfl⟩
  · decide
  · have hlast := BodyPlace.concat_suffix_concat_iff [] front byteCR b
    rw [behind_concat, next_eq_afterCr_iff, ← List.nil_append [byteCR], hlast]
    simp [eq_comm]

/-- A dot would be stuffed exactly where a line begins. -/
theorem behind_eq_lineStart_iff (text : List UInt8) :
    behind text = .lineStart ↔ EndsLine text := by
  rcases List.eq_nil_or_concat' text with rfl | ⟨front, b, rfl⟩
  · decide
  · have hlast := BodyPlace.concat_suffix_concat_iff [byteCR] front byteLF b
    have hends : EndsLine (front ++ [b]) ↔ lineEnd <:+ front ++ [b] := by
      simp [EndsLine]
    rw [behind_concat, next_eq_lineStart_iff, behind_eq_afterCr_iff, hends]
    exact ⟨fun ⟨hfront, hb⟩ => hlast.mpr ⟨hb.symm, hfront⟩,
      fun h => ⟨(hlast.mp h).2, (hlast.mp h).1.symm⟩⟩

/-- Where a decoder stands at a place in a text, with no dot that may yet be dropped. -/
def bodyPlace : StuffPlace → BodyPlace
  | .lineStart => .lineStart
  | .afterCr => .afterCr
  | .inside => .text

theorem bodyPlace_next {place : StuffPlace} {b : UInt8}
    (hb : ¬ (place = .lineStart ∧ b = byteDot)) :
    place.bodyPlace.next b = (place.next b).bodyPlace := by
  have hne := BodyPlace.byte_ne
  cases place with
  | lineStart => grind [BodyPlace.next, StuffPlace.next, bodyPlace]
  | afterCr => grind [BodyPlace.next, StuffPlace.next, bodyPlace]
  | inside => grind [BodyPlace.next, StuffPlace.next, bodyPlace]

theorem bodyPlace_ne (place : StuffPlace) : place.bodyPlace ≠ .afterDotCr := by
  cases place with
  | lineStart | afterCr | inside => decide

end StuffPlace

/-- A byte of a text as it is sent behind the bytes before it. -/
def sentAs (before : List UInt8) (b : UInt8) : List UInt8 :=
  if EndsLine before ∧ b = byteDot then [byteDot, b] else [b]

theorem stuffFrom_concat (place : StuffPlace) (text : List UInt8) (b : UInt8) :
    stuffFrom place (text ++ [b]) =
      stuffFrom place text ++
        if text.foldl StuffPlace.next place = .lineStart ∧ b = byteDot then [byteDot, b]
        else [b] := by
  induction text generalizing place with
  | nil =>
      by_cases hdot : place = .lineStart ∧ b = byteDot
      · simp [stuffFrom, hdot]
      · simp [stuffFrom, hdot]
  | cons a text ih =>
      simp only [List.cons_append, stuffFrom, ih, List.foldl_cons]
      split
      · rfl
      · rfl

/-- A dot is put before each dot at the start of a line, and nothing else is changed. -/
theorem stuff_concat (text : List UInt8) (b : UInt8) :
    stuff (text ++ [b]) = stuff text ++ sentAs text b := by
  rw [stuff, stuff, stuffFrom_concat, sentAs]
  simp only [← StuffPlace.behind_eq_lineStart_iff, StuffPlace.behind]

namespace DotDecoder

/-- A decoder that has read a text as it is sent. -/
structure Decodes (d : DotDecoder) (limit : Nat) (text : List UInt8) : Prop where
  limit_eq : d.limit = limit
  place_eq : d.place = (StuffPlace.behind text).bodyPlace
  keeps : d.Keeps text

theorem decodes_nil (limit : Nat) : Decodes { limit } limit [] where
  limit_eq := rfl
  place_eq := rfl
  keeps := ⟨by simp, by simp⟩

variable {d : DotDecoder} {limit : Nat} {text : List UInt8}

/-- A decoder keeps a byte that is sent as it is. -/
theorem Decodes.step (hdecodes : d.Decodes limit text) {b : UInt8}
    (hb : ¬ (EndsLine text ∧ b = byteDot)) : (d.step b).Decodes limit (text ++ [b]) := by
  have hplace := hdecodes.place_eq
  rw [← StuffPlace.behind_eq_lineStart_iff] at hb
  refine ⟨by rw [limit_step, hdecodes.limit_eq], ?_, ?_⟩
  · rw [place_step, hplace, StuffPlace.behind_concat]
    exact StuffPlace.bodyPlace_next hb
  · rw [DotDecoder.step, hplace]
    cases hbehind : StuffPlace.behind text with
    | lineStart =>
        have hdot : b ≠ byteDot := fun hdot => hb ⟨hbehind, hdot⟩
        simp only [StuffPlace.bodyPlace, if_neg hdot]
        exact hdecodes.keeps.plain b
    | inside => exact hdecodes.keeps.plain b
    | afterCr => exact hdecodes.keeps.behindCr b

theorem Decodes.place_eq_lineStart (hdecodes : d.Decodes limit text) (hline : EndsLine text) :
    d.place = .lineStart := by
  rw [hdecodes.place_eq, (StuffPlace.behind_eq_lineStart_iff text).mpr hline,
    StuffPlace.bodyPlace]

/-- Of two dots at the start of a line a decoder keeps the second. -/
theorem Decodes.step_step (hdecodes : d.Decodes limit text) (hline : EndsLine text) :
    ((d.step byteDot).step byteDot).Decodes limit (text ++ [byteDot]) := by
  have hplace := hdecodes.place_eq_lineStart hline
  have hfirst : d.step byteDot = { d with place := .afterDot } := by
    simp [DotDecoder.step, hplace]
  have hkeeps : Keeps { d with place := .afterDot } text :=
    ⟨hdecodes.keeps.body, hdecodes.keeps.overflow⟩
  refine ⟨by rw [limit_step, limit_step, hdecodes.limit_eq], ?_, ?_⟩
  · rw [place_step, place_step, hplace, StuffPlace.behind_concat,
      (StuffPlace.behind_eq_lineStart_iff text).mpr hline]
    decide
  · rw [hfirst, DotDecoder.step]
    exact hkeeps.plain byteDot

theorem Decodes.endsWith_eq_false (hdecodes : d.Decodes limit text) (b : UInt8) :
    d.endsWith b = false := by
  rw [Bool.eq_false_iff]
  intro hends
  have hplace := ((endsWith_iff d b).mp hends).1
  rw [hdecodes.place_eq] at hplace
  exact StuffPlace.bodyPlace_ne _ hplace

/-- A decoder reads on through one more byte of a text as it is sent. -/
theorem Decodes.feed_sentAs (hdecodes : d.Decodes limit text) (b : UInt8) :
    ∃ e : DotDecoder, e.Decodes limit (text ++ [b]) ∧
      ∀ more, d.feed (sentAs text b ++ more) = e.feed more := by
  have hgoes := hdecodes.endsWith_eq_false
  by_cases hdot : EndsLine text ∧ b = byteDot
  · have hstill : (d.step byteDot).endsWith byteDot = false := by
      simp [endsWith, BodyPlace.byte_ne.2.2.symm]
    refine ⟨(d.step byteDot).step byteDot, hdot.2 ▸ hdecodes.step_step hdot.1, fun more => ?_⟩
    rw [sentAs, if_pos hdot, hdot.2, List.cons_append, List.singleton_append,
      DotDecoder.feed, hgoes, DotDecoder.feed, hstill]
    rfl
  · refine ⟨d.step b, hdecodes.step hdot, fun more => ?_⟩
    rw [sentAs, if_neg hdot, List.singleton_append, DotDecoder.feed, hgoes]
    rfl

/-- A decoder reads on through a whole text as it is sent. -/
theorem feed_stuff (limit : Nat) (text : List UInt8) :
    ∃ d : DotDecoder, d.Decodes limit text ∧
      ∀ more, ({ limit } : DotDecoder).feed (stuff text ++ more) = d.feed more := by
  -- What a byte is sent as depends on the bytes before it, so the last byte is split off.
  induction text using List.reverseRecOn with
  | nil => exact ⟨{ limit }, decodes_nil limit, fun more => rfl⟩
  | append_singleton text b ih =>
      obtain ⟨d, hdecodes, hfeed⟩ := ih
      obtain ⟨e, hnext, hbyte⟩ := hdecodes.feed_sentAs b
      refine ⟨e, hnext, fun more => ?_⟩
      rw [stuff_concat, List.append_assoc, hfeed, hbyte]

/-- How many bytes of a chunk belong to a body that ends in it. -/
def consumed (d : DotDecoder) (chunk : List UInt8) : Option Nat :=
  (d.feed chunk).1.map fun rest => chunk.length - rest.length

/-- A body that is empty or ends a line, sent with its dots stuffed and the lone dot behind it, is
read up to exactly there, and what has been read is the body if that is within the limit. -/
theorem feed_stuffed {body : List UInt8} (hbody : EndsLine body) (limit : Nat)
    (rest : List UInt8) :
    let d : DotDecoder := { limit }
    let wire := stuff body ++ lastLine ++ rest
    d.consumed wire = some ((stuff body).length + 3) ∧ (d.feed wire).1 = some rest ∧
      (d.feed wire).2.finish = if body.length ≤ limit then .complete body else .tooBig := by
  intro d wire
  obtain ⟨e, hdecodes, hfeed⟩ := feed_stuff limit body
  have hplace := hdecodes.place_eq_lineStart hbody
  have hend : d.feed wire = (some rest, { e with place := .afterDotCr, done := true }) := by
    have hwire : wire = stuff body ++ (lastLine ++ rest) := List.append_assoc _ _ _
    rw [hwire, hfeed]
    exact feed_lastLine hplace rest
  have hlength : wire.length - rest.length = (stuff body).length + 3 := by
    simp only [wire, lastLine, List.length_append, List.length_cons, List.length_nil]
    omega
  have hfinish := hdecodes.keeps.finish
  rw [hdecodes.limit_eq] at hfinish
  refine ⟨?_, ?_, ?_⟩
  · rw [consumed, hend, Option.map_some, hlength]
  · rw [hend]
  · rw [hend]
    exact hfinish

theorem feed_stuffed_dots :
    let d : DotDecoder := { limit := 5 }
    let body := [byteDot, byteDot, byteDot, byteCR, byteLF]
    let wire := stuff body ++ lastLine ++ [0x51]
    EndsLine body ∧ d.consumed wire = some ((stuff body).length + 3) ∧
      (d.feed wire).1 = some [0x51] ∧ (d.feed wire).2.finish = .complete body := by
  intro d body wire
  have hbody : EndsLine body := by decide
  obtain ⟨hconsumed, hrest, hfinish⟩ := feed_stuffed hbody 5 [0x51]
  exact ⟨hbody, hconsumed, hrest, hfinish⟩

end DotDecoder
end MailIntake
