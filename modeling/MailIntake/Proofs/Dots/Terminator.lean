import MailIntake.Proofs.Dots.Stuffing
import MailIntake.Text.Split
/-!
The decoder as a search.  Bytes show an end when they have CR LF, a dot, CR LF anywhere in them, a
CR LF being thought before the first byte (`showsEnd_iff`); however they are cut into chunks, a
decoder stops right behind the first place where they do (`feedAll_finds_end`).  What it has kept
then are the lines before the lone dot, each without a dot that it begins with
(`unstuff_eq_withoutDots`).
-/
namespace MailIntake

/-- The bytes have the end of a body somewhere. -/
def ShowsEnd (bytes : List UInt8) : Prop :=
  bodyEnd <:+: lineEnd ++ bytes

instance (bytes : List UInt8) : Decidable (ShowsEnd bytes) :=
  inferInstanceAs (Decidable (bodyEnd <:+: lineEnd ++ bytes))

/-- The first place in some bytes behind an end of a body. -/
structure FirstEnd (bytes : List UInt8) (place : Nat) : Prop where
  within : place ≤ bytes.length
  ends : EndsBody (bytes.take place)
  first : ∀ before < place, ¬ EndsBody (bytes.take before)

/-- Bytes show an end if a beginning of them ends a body. -/
theorem showsEnd_iff_endsBody (bytes : List UInt8) :
    ShowsEnd bytes ↔ ∃ front, front <+: bytes ∧ EndsBody front := by
  constructor
  · rintro ⟨before, behind, hcut⟩
    -- The pattern is longer than the line end thought before the bytes, so its end is among them.
    have hthought : lineEnd <+: before ++ bodyEnd := by
      refine List.prefix_of_prefix_length_le (List.prefix_append lineEnd bytes) ?_ ?_
      · rw [← hcut]
        exact List.prefix_append (before ++ bodyEnd) behind
      · simp [lineEnd, bodyEnd]
    obtain ⟨front, hfront⟩ := hthought
    refine ⟨front, ?_, before, hfront.symm⟩
    rw [← hfront, List.append_assoc] at hcut
    exact ⟨behind, List.append_cancel_left hcut⟩
  · rintro ⟨front, ⟨behind, hbytes⟩, before, hcut⟩
    refine ⟨before, behind, ?_⟩
    rw [hcut, ← hbytes, List.append_assoc]

theorem openBody_iff_not_showsEnd (bytes : List UInt8) : OpenBody bytes ↔ ¬ ShowsEnd bytes := by
  rw [showsEnd_iff_endsBody]
  exact ⟨fun hopen ⟨front, hfront, hends⟩ => hopen front hfront hends,
    fun hnone front hfront hends => hnone ⟨front, hfront, hends⟩⟩

/-- Bytes that show an end begin with a whole body. -/
theorem ShowsEnd.wholeBody {bytes : List UInt8} (hshows : ShowsEnd bytes) :
    ∃ wire rest, bytes = wire ++ rest ∧ WholeBody wire := by
  induction bytes using List.reverseRecOn with
  | nil => exact absurd hshows (by decide)
  | append_singleton front b ih =>
      by_cases hfront : ShowsEnd front
      · obtain ⟨wire, rest, hcut, hwhole⟩ := ih hfront
        exact ⟨wire, rest ++ [b], by rw [hcut, List.append_assoc], hwhole⟩
      · have hopen := (openBody_iff_not_showsEnd front).mpr hfront
        have hends : EndsBody (front ++ [b]) := by
          by_contra hends
          exact (openBody_iff_not_showsEnd _).mp (hopen.concat hends) hshows
        exact ⟨front ++ [b], [], (List.append_nil _).symm, hopen.wholeBody hends⟩

theorem WholeBody.firstEnd {wire : List UInt8} (hwhole : WholeBody wire) (rest : List UInt8) :
    FirstEnd (wire ++ rest) wire.length where
  within := by simp
  ends := by
    rw [List.take_left]
    exact hwhole.ends
  first before hbefore hends := by
    rw [List.take_append_of_le_length (Nat.le_of_lt hbefore)] at hends
    have hsame := congrArg List.length (hwhole.first _ (List.take_prefix before wire) hends)
    rw [List.length_take] at hsame
    omega

theorem showsEnd_iff (bytes : List UInt8) : ShowsEnd bytes ↔ ∃ place, FirstEnd bytes place := by
  constructor
  · intro hshows
    obtain ⟨wire, rest, rfl, hwhole⟩ := hshows.wholeBody
    exact ⟨wire.length, hwhole.firstEnd rest⟩
  · rintro ⟨place, hfirst⟩
    exact (showsEnd_iff_endsBody bytes).mpr ⟨_, List.take_prefix place bytes, hfirst.ends⟩

/-- The lines of some bytes: what stands between each CR LF and the next.  A CR or an LF alone is
part of its line. -/
def crlfLines : List UInt8 → List (List UInt8)
  | [] => [[]]
  | [b] => [[b]]
  | b :: c :: rest =>
      if b = byteCR ∧ c = byteLF then [] :: crlfLines rest
      else
        match crlfLines (c :: rest) with
        | [] => [[b]]
        | line :: more => (b :: line) :: more

/-- A line without the dot that it may begin with. -/
def dropDot : List UInt8 → List UInt8
  | [] => []
  | b :: line => if b = byteDot then line else b :: line

/-- The lines of some bytes, each without a dot that it begins with. -/
def withoutDots (bytes : List UInt8) : List UInt8 :=
  Text.joinWith lineEnd ((crlfLines bytes).map dropDot)

theorem crlfLines_ne_nil (bytes : List UInt8) : crlfLines bytes ≠ [] := by
  fun_cases crlfLines bytes with
  | case1 | case2 | case3 | case4 | case5 => simp

theorem joinWith_cons_cons (glue : List UInt8) (b : UInt8) (line : List UInt8)
    (more : List (List UInt8)) :
    Text.joinWith glue ((b :: line) :: more) = b :: Text.joinWith glue (line :: more) := by
  cases more with
  | nil => rfl
  | cons next rest => rfl

/-- The lines of some bytes are all there is in them. -/
theorem joinWith_crlfLines (bytes : List UInt8) :
    Text.joinWith lineEnd (crlfLines bytes) = bytes := by
  fun_induction crlfLines bytes with
  | case1 | case2 => rfl
  | case3 b c rest hline ih =>
      rw [Text.joinWith_cons_of_ne_nil _ _ (crlfLines_ne_nil rest), ih, hline.1, hline.2]
      rfl
  | case4 b c rest hline hnone => exact absurd hnone (crlfLines_ne_nil _)
  | case5 b c rest hline line more hcut ih => rw [joinWith_cons_cons, ← hcut, ih]

/-- No line has a line end inside. -/
theorem not_lineEnd_infix_of_mem_crlfLines {bytes line : List UInt8}
    (hmem : line ∈ crlfLines bytes) : ¬ lineEnd <:+: line := by
  fun_induction crlfLines bytes generalizing line with
  | case1 =>
      rw [List.mem_singleton.mp hmem]
      decide
  | case2 b =>
      rw [List.mem_singleton.mp hmem]
      exact fun hinfix => absurd hinfix.length_le (by simp [lineEnd])
  | case3 b c rest hline ih =>
      rcases List.mem_cons.mp hmem with rfl | hrest
      · decide
      · exact ih hrest
  | case4 b c rest hline hnone => exact absurd hnone (crlfLines_ne_nil _)
  | case5 b c rest hline front more hcut ih =>
      rcases List.mem_cons.mp hmem with rfl | hmore
      · intro hinfix
        rcases List.infix_cons_iff.mp hinfix with hhead | hinside
        · obtain ⟨hb, hfront⟩ := List.cons_prefix_cons.mp hhead
          obtain ⟨behind, rfl⟩ := hfront
          -- The line that goes on begins with the byte behind `b`.
          have hc := joinWith_crlfLines (c :: rest)
          rw [hcut, List.cons_append, joinWith_cons_cons, List.cons.injEq] at hc
          exact hline ⟨hb.symm, hc.1.symm⟩
        · exact ih (hcut ▸ List.mem_cons_self) hinside
      · exact ih (hcut ▸ List.mem_cons_of_mem front hmore)

/-- No dot is taken out inside a line. -/
theorem unstuffFrom_inside_cons (b c : UInt8) (rest : List UInt8)
    (hline : ¬ (b = byteCR ∧ c = byteLF)) :
    unstuffFrom (StuffPlace.inside.next b) (c :: rest) = unstuffFrom .inside (c :: rest) := by
  by_cases hb : b = byteCR
  · have hc : c ≠ byteLF := fun hc => hline ⟨hb, hc⟩
    simp [StuffPlace.next, hb, hc, unstuffFrom]
  · simp [StuffPlace.next, hb]

theorem StuffPlace.lineStart_next (b : UInt8) :
    StuffPlace.lineStart.next b = StuffPlace.inside.next b := by
  simp [StuffPlace.next]

theorem unstuffFrom_crlf (place : StuffPlace) (rest : List UInt8) :
    unstuffFrom place (byteCR :: byteLF :: rest) = lineEnd ++ unstuff rest := by
  have hne := BodyPlace.byte_ne
  simp [unstuffFrom, unstuff, StuffPlace.next, hne, lineEnd]

/-- Bytes that begin inside a line lose the dots of the lines behind it, and bytes that begin at the
start of a line lose the dot of that line as well. -/
theorem unstuffFrom_crlfLines {bytes line : List UInt8} {more : List (List UInt8)}
    (hcut : crlfLines bytes = line :: more) :
    unstuffFrom .inside bytes = Text.joinWith lineEnd (line :: more.map dropDot) ∧
      unstuff bytes = Text.joinWith lineEnd (dropDot line :: more.map dropDot) := by
  fun_induction crlfLines bytes generalizing line more with
  | case1 =>
      cases hcut
      exact ⟨rfl, rfl⟩
  | case2 b =>
      cases hcut
      refine ⟨rfl, ?_⟩
      by_cases hb : b = byteDot
      · simp [unstuff, unstuffFrom, dropDot, hb, Text.joinWith]
      · simp [unstuff, unstuffFrom, dropDot, hb, Text.joinWith]
  | case3 b c rest hline ih =>
      obtain ⟨rfl, rfl⟩ := hline
      cases hcut
      obtain ⟨next, rest', hrest⟩ := List.exists_cons_of_ne_nil (crlfLines_ne_nil rest)
      have hsplit : Text.joinWith lineEnd ([] :: (crlfLines rest).map dropDot) =
          lineEnd ++ unstuff rest := by
        rw [(ih hrest).2, hrest, Text.joinWith_cons_of_ne_nil _ _ (by simp), List.nil_append,
          List.map_cons]
      rw [unstuff, unstuffFrom_crlf, unstuffFrom_crlf]
      exact ⟨hsplit.symm, hsplit.symm⟩
  | case4 b c rest hline hnone => exact absurd hnone (crlfLines_ne_nil _)
  | case5 b c rest hline front behind hrest ih =>
      cases hcut
      have hinside := (ih hrest).1
      rw [← unstuffFrom_inside_cons b c rest hline] at hinside
      constructor
      · rw [unstuffFrom, if_neg (by simp), hinside, joinWith_cons_cons]
      · rw [unstuff, unstuffFrom, StuffPlace.lineStart_next, hinside]
        by_cases hb : b = byteDot
        · simp [dropDot, hb]
        · simp [dropDot, hb, joinWith_cons_cons]

theorem unstuff_eq_withoutDots (bytes : List UInt8) : unstuff bytes = withoutDots bytes := by
  obtain ⟨line, more, hcut⟩ := List.exists_cons_of_ne_nil (crlfLines_ne_nil bytes)
  rw [withoutDots, hcut, List.map_cons]
  exact (unstuffFrom_crlfLines hcut).2

/-- What a whole body says is told line by line. -/
theorem bodyText_eq_withoutDots {wire content : List UInt8} (hwire : wire = content ++ lastLine) :
    bodyText wire = withoutDots content := by
  rw [bodyText, hwire, List.length_append, lastLine, List.length_cons, List.length_cons,
    List.length_singleton, Nat.add_sub_cancel, List.take_left, unstuff_eq_withoutDots]

namespace DotDecoder

/-- Chunks fed one behind the other until the body ends in one of them: what each call answers, and
the decoder behind the last. -/
def feedAll (d : DotDecoder) : List (List UInt8) → List (Option Nat) × DotDecoder
  | [] => ([], d)
  | chunk :: more =>
      let fed := (d.feed chunk).2
      match d.consumed chunk with
      | some n => ([some n], fed)
      | none => ((none :: (fed.feedAll more).1), (fed.feedAll more).2)

@[simp]
theorem done_step (d : DotDecoder) (b : UInt8) : (d.step b).done = d.done := by
  have hkeep : ∀ (e : DotDecoder) (c : UInt8), (e.keep c).done = e.done := by
    intro e c
    rw [keep]
    split <;> rfl
  rw [step]
  split <;> simp [plain, behindCr, apply_ite DotDecoder.done, hkeep]

/-- A decoder is done when it has found the end. -/
theorem done_feed (d : DotDecoder) (chunk : List UInt8) :
    (d.feed chunk).2.done = (d.done || (d.feed chunk).1.isSome) := by
  induction chunk generalizing d with
  | nil => simp [DotDecoder.feed]
  | cons b rest ih =>
      rw [DotDecoder.feed]
      split
      · simp
      · rw [ih, done_step]

variable {d e : DotDecoder} {limit : Nat} {read chunk : List UInt8} {front back : List (List UInt8)}

theorem consumed_of_feed_none (hfeed : d.feed chunk = (none, e)) : d.consumed chunk = none := by
  rw [consumed, hfeed, Option.map_none]

theorem feedAll_cons_of_feed_none (hfeed : d.feed chunk = (none, e)) (more : List (List UInt8)) :
    d.feedAll (chunk :: more) = (none :: (e.feedAll more).1, (e.feedAll more).2) := by
  simp [feedAll, consumed_of_feed_none hfeed, hfeed]

/-- As long as no end shows, every call reads its whole chunk. -/
theorem feedAll_openBody (hread : ({ limit } : DotDecoder).feed read = (none, d))
    (hopen : OpenBody (read ++ front.flatten)) (back : List (List UInt8)) :
    ∃ e, ({ limit } : DotDecoder).feed (read ++ front.flatten) = (none, e) ∧
      d.feedAll (front ++ back) =
        ((front.map fun _ => none) ++ (e.feedAll back).1, (e.feedAll back).2) := by
  induction front generalizing read d with
  | nil => exact ⟨d, by simpa using hread, rfl⟩
  | cons chunk front ih =>
      have hcut : read ++ (chunk :: front).flatten = read ++ chunk ++ front.flatten := by simp
      rw [hcut] at hopen ⊢
      obtain ⟨mid, hmid, -⟩ := feed_openBody limit hopen.of_append
      have hchunk := hmid
      rw [feed_append_of_none hread] at hchunk
      obtain ⟨e, he, hall⟩ := ih hmid hopen
      refine ⟨e, he, ?_⟩
      rw [List.cons_append, feedAll_cons_of_feed_none hchunk, hall]
      rfl

/-- The call whose chunk has the first end finds it, and reads no further. -/
theorem feed_chunk_of_showsEnd (hread : ({ limit } : DotDecoder).feed read = (none, d))
    (hopen : OpenBody read) (hshows : ShowsEnd (read ++ chunk)) :
    ∃ wire rest, read ++ chunk = wire ++ rest ∧ WholeBody wire ∧
      d.consumed chunk = some (wire.length - read.length) ∧ read.length ≤ wire.length ∧
      (d.feed chunk).2.done ∧ (d.feed chunk).2.finish = .ofText limit (bodyText wire) := by
  obtain ⟨wire, rest, hcut, hwhole⟩ := hshows.wholeBody
  obtain ⟨e, hfeed, hfinish⟩ := feed_wholeBody limit hwhole rest
  rw [← hcut, feed_append_of_none hread] at hfeed
  have hlonger : read.length ≤ wire.length := by
    by_contra hshort
    have hbefore : wire <+: read :=
      List.prefix_of_prefix_length_le ⟨rest, hcut.symm⟩ (List.prefix_append read chunk) (by omega)
    exact hopen wire hbefore hwhole.ends
  have hlength := congrArg List.length hcut
  rw [List.length_append, List.length_append] at hlength
  refine ⟨wire, rest, hcut, hwhole, ?_, hlonger, ?_, ?_⟩
  · rw [consumed, hfeed, Option.map_some, Option.some.injEq]
    omega
  · rw [done_feed, hfeed]
    simp
  · rw [hfeed]
    exact hfinish

/-- Whatever the limit and whatever the chunks: no call answers while the bytes show no end; the
call whose chunk is the first to show one answers, the bytes read are then those up to the first
end, and what stands before the lone dot is kept if it is within the limit. -/
theorem feedAll_finds_end (limit : Nat) (chunks : List (List UInt8)) :
    let answers := (({ limit } : DotDecoder).feedAll chunks).1
    let d := (({ limit } : DotDecoder).feedAll chunks).2
    (¬ ShowsEnd chunks.flatten → answers = (chunks.map fun _ => none) ∧ d.done = false) ∧
    ∀ front chunk back, chunks = front ++ chunk :: back →
      ¬ ShowsEnd front.flatten → ShowsEnd (front.flatten ++ chunk) →
      ∃ n content, n ≤ chunk.length ∧ answers = (front.map fun _ => none) ++ [some n] ∧
        FirstEnd chunks.flatten (front.flatten.length + n) ∧
        chunks.flatten.take (front.flatten.length + n) = content ++ lastLine ∧
        d.done = true ∧
        d.finish = if (withoutDots content).length ≤ limit then .complete (withoutDots content)
          else .tooBig := by
  intro answers d
  have hnew : ({ limit } : DotDecoder).feed [] = (none, { limit }) := rfl
  constructor
  · intro hnone
    have hopen := (openBody_iff_not_showsEnd _).mpr hnone
    obtain ⟨e, hfeed, hall⟩ := feedAll_openBody hnew hopen []
    have hdone := done_feed { limit } chunks.flatten
    rw [List.nil_append] at hfeed
    rw [hfeed] at hdone
    simp only [List.append_nil, feedAll] at hall
    exact ⟨congrArg Prod.fst hall, (congrArg (fun fed => fed.2.done) hall).trans hdone⟩
  · intro front chunk back hchunks hfront hshows
    have hopen := (openBody_iff_not_showsEnd _).mpr hfront
    obtain ⟨e, hfeed, hall⟩ := feedAll_openBody hnew hopen (chunk :: back)
    rw [List.nil_append] at hfeed
    obtain ⟨wire, rest, hcut, hwhole, hconsumed, hlonger, hdone, hfinish⟩ :=
      feed_chunk_of_showsEnd hfeed hopen hshows
    obtain ⟨content, hwire, -⟩ := hwhole.split
    have hlast : e.feedAll (chunk :: back) =
        ([some (wire.length - front.flatten.length)], (e.feed chunk).2) := by
      simp [feedAll, hconsumed]
    have hplace : front.flatten.length + (wire.length - front.flatten.length) = wire.length := by
      omega
    have hbytes : chunks.flatten = wire ++ (rest ++ back.flatten) := by
      rw [hchunks, List.flatten_append, List.flatten_cons, ← List.append_assoc, hcut,
        List.append_assoc]
    have hlength := congrArg List.length hcut
    rw [List.length_append, List.length_append] at hlength
    rw [← hchunks, hlast] at hall
    have hd : d = (e.feed chunk).2 := congrArg Prod.snd hall
    refine ⟨wire.length - front.flatten.length, content, by omega, congrArg Prod.fst hall, ?_, ?_,
      hd ▸ hdone, ?_⟩
    · rw [hplace, hbytes]
      exact hwhole.firstEnd _
    · rw [hplace, hbytes, List.take_left]
      exact hwire
    · rw [hd, hfinish, bodyText_eq_withoutDots hwire, BodyOutcome.ofText]

theorem feedAll_finds_end_split_lines :
    let front := [[0x61, byteCR], [byteLF, byteDot, byteDot, byteCR, byteLF, byteDot]]
    let chunk := [byteCR, byteLF, 0x51]
    let fed := ({ limit := 6 } : DotDecoder).feedAll (front ++ [chunk])
    let cut := ({ limit := 6 } : DotDecoder).feedAll front
    ¬ ShowsEnd front.flatten ∧ ShowsEnd (front.flatten ++ chunk) ∧
      (cut.1 = (front.map fun _ => none) ∧ cut.2.done = false) ∧
      ∃ n content, n ≤ chunk.length ∧ fed.1 = (front.map fun _ => none) ++ [some n] ∧
        FirstEnd (front ++ [chunk]).flatten (front.flatten.length + n) ∧
        (front ++ [chunk]).flatten.take (front.flatten.length + n) = content ++ lastLine ∧
        fed.2.done = true ∧
        fed.2.finish = if (withoutDots content).length ≤ 6 then .complete (withoutDots content)
          else .tooBig := by
  intro front chunk fed cut
  have hfront : ¬ ShowsEnd front.flatten := by decide
  have hshows : ShowsEnd (front.flatten ++ chunk) := by decide
  exact ⟨hfront, hshows, (feedAll_finds_end 6 front).1 hfront,
    (feedAll_finds_end 6 (front ++ [chunk])).2 front chunk [] rfl hfront hshows⟩

end DotDecoder
end MailIntake
