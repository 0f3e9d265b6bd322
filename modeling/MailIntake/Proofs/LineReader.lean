import Mathlib.Data.List.DropRight
import MailIntake.Proofs.Session.Reads
import MailIntake.Proofs.Session.SentLine
/-!
The lines of a byte stream.  A call for a line takes the bytes up to the next line feed, however
they arrive, and leaves every byte behind it unread (`readLine_of_segments`); called again and
again, it gives one line for every line feed of the stream (`reads_lines`).  A reader is told by the
bytes of its line alone (`add_eq`): it has them all as long as they fit, and none of them
afterwards.
-/
namespace MailIntake

open Text

universe u

def Phase.held : Phase → List UInt8
  | .command reader | .response _ reader => reader.held
  | .opening | .body _ | .handshake | .closed => []

/-- What the bytes of a line are read as, its line feed included. -/
def Line.ofBytes (bytes : List UInt8) : Line :=
  if bytes.length ≤ maxLineLength then
    .text (Utf8.decodeLossy (bytes.rdropWhile fun b => b = 0x0D ∨ b = 0x0A))
  else .tooLong

namespace LineReader

/-- What a call for a line ends with. -/
inductive Reading
  /-- A line, and the pieces behind it, of which nobody has seen a byte. -/
  | line (line : Line) (unread : List (List UInt8))
  /-- The client is gone before its line has ended. -/
  | disconnected
deriving DecidableEq, Repr

/-- A call for a line, with the pieces in which bytes arrive until the client is gone.  A piece of
which only the front belongs to the line is read no further; one that is read to its end is gone, so
no empty piece is left. -/
def readLine (r : LineReader) : List (List UInt8) → Reading
  | [] => .disconnected
  | piece :: later =>
      match r.feed piece with
      | .more next => next.readLine later
      | .line line behind => .line line (if behind = [] then later else behind :: later)

def passes (r : LineReader) : List (List UInt8) → List LineReader
  | [] => []
  | piece :: later =>
      match cutAtFeed piece with
      | none => r.add piece :: (r.add piece).passes later
      | some (front, _) => [r.add front]

/-- A stream as the lines that end in it, each with its line feed, and one that does not. -/
structure Segments (stream : List UInt8) (lines : List (List UInt8)) (rest : List UInt8) :
    Prop where
  whole : stream = lines.flatten ++ rest
  ended : ∀ line ∈ lines, ∃ content, byteFeed ∉ content ∧ line = content ++ [byteFeed]
  unended : byteFeed ∉ rest

/-- The bytes of its line tell what a new reader has become. -/
theorem add_eq (bytes : List UInt8) :
    ({} : LineReader).add bytes =
      if bytes.length ≤ maxLineLength then { held := bytes } else { discarding := true } := by
  rw [add, if_neg Bool.false_ne_true]
  by_cases hfits : bytes.length ≤ maxLineLength
  · rw [if_pos hfits, if_neg (by simpa using hfits)]
    rfl
  · rw [if_neg hfits, if_pos (by simpa using hfits)]

/-- A reader that holds no more than a line may have never holds more. -/
theorem length_held_add {r : LineReader} (hr : r.held.length ≤ maxLineLength) (piece : List UInt8) :
    (r.add piece).held.length ≤ maxLineLength := by
  rw [add]
  split
  · exact hr
  · split
    · exact Nat.zero_le _
    · next hfits =>
        rw [List.length_append]
        exact Nat.le_of_not_lt hfits

theorem length_held_of_mem_passes {r : LineReader} (hr : r.held.length ≤ maxLineLength)
    (cut : List (List UInt8)) : ∀ next ∈ r.passes cut, next.held.length ≤ maxLineLength := by
  induction cut generalizing r with
  | nil => exact List.forall_mem_nil _
  | cons piece later ih =>
      rw [passes]
      cases cutAtFeed piece with
      | none =>
          have hnext := length_held_add hr piece
          exact List.forall_mem_cons.mpr ⟨hnext, ih hnext⟩
      | some found =>
          intro next hnext
          rw [List.mem_singleton.mp hnext]
          exact length_held_add hr found.1

theorem finish_add (bytes : List UInt8) :
    (({} : LineReader).add bytes).finish = .ofBytes bytes := by
  have hends : isEnd = fun b : UInt8 => decide (b = 0x0D ∨ b = 0x0A) := by
    funext b
    rw [isEnd, Bool.or_comm, Bool.decide_or]
    rfl
  rw [add_eq, Line.ofBytes]
  by_cases hfits : bytes.length ≤ maxLineLength
  · simp only [if_pos hfits, finish, Text.dropTailWhile, hends, List.rdropWhile, Bool.false_eq_true,
      if_false]
  · simp only [if_neg hfits, finish, if_true]

/-- What a reader sees of two pieces is what it sees of them one after the other. -/
theorem feed_append (r : LineReader) (front back : List UInt8) :
    r.feed (front ++ back) =
      match r.feed front with
      | .more next => next.feed back
      | .line line behind => .line line (behind ++ back) := by
  induction front generalizing r with
  | nil =>
      rw [List.nil_append, feed, feed, cutAtFeed]
      simp only [feed, add_add, List.nil_append]
  | cons b rest ih =>
      rw [List.cons_append]
      by_cases hb : b = byteFeed
      · rw [hb, feed_feed, feed_feed]
      · rw [feed_cons r hb, feed_cons r hb, ih]

/-- How the bytes are cut into pieces makes no difference to a call. -/
theorem feed_flatten (r : LineReader) (cut : List (List UInt8)) :
    match r.readLine cut with
    | .line line unread => r.feed cut.flatten = .line line unread.flatten
    | .disconnected => ∃ next, r.feed cut.flatten = .more next := by
  induction cut generalizing r with
  | nil => exact ⟨r.add [], rfl⟩
  | cons piece later ih =>
      rw [List.flatten_cons, feed_append, readLine]
      cases r.feed piece with
      | more next => exact ih next
      | line line behind =>
          by_cases hbehind : behind = []
          · simp [hbehind]
          · simp [hbehind]

theorem readLine_of_rest {cut : List (List UInt8)} {rest : List UInt8}
    (hsegments : Segments cut.flatten [] rest) :
    ({} : LineReader).readLine cut = .disconnected := by
  have hcut : byteFeed ∉ cut.flatten := by
    rw [hsegments.whole]
    exact hsegments.unended
  have hfeed := feed_flatten {} cut
  rw [feed, cutAtFeed_eq_none hcut] at hfeed
  cases hread : ({} : LineReader).readLine cut with
  | line line unread =>
      rw [hread] at hfeed
      cases hfeed
  | disconnected => rfl

/-- A call takes the bytes up to the next line feed and none behind it. -/
theorem readLine_of_segments {cut more : List (List UInt8)} {line rest : List UInt8}
    (hsegments : Segments cut.flatten (line :: more) rest) :
    ∃ unread, ({} : LineReader).readLine cut = .line (.ofBytes line) unread ∧
      Segments unread.flatten more rest := by
  obtain ⟨hwhole, hended, hrest⟩ := hsegments
  obtain ⟨⟨content, hcontent, rfl⟩, hmore⟩ := List.forall_mem_cons.mp hended
  have hcut : cut.flatten = content ++ byteFeed :: (more.flatten ++ rest) := by
    rw [hwhole]
    simp
  have hfeed := feed_flatten {} cut
  rw [hcut, feed, cutAtFeed_of_notMem hcontent] at hfeed
  cases hread : ({} : LineReader).readLine cut with
  | line line unread =>
      rw [hread] at hfeed
      injection hfeed with hline hbehind
      exact ⟨unread, by rw [← hline, finish_add], hbehind.symm, hmore, hrest⟩
  | disconnected =>
      rw [hread] at hfeed
      obtain ⟨next, hnext⟩ := hfeed
      cases hnext

/-- A call that gives a line has read something. -/
theorem length_unread_lt {cut unread : List (List UInt8)} {line : Line}
    (hread : ({} : LineReader).readLine cut = .line line unread) :
    unread.flatten.length < cut.flatten.length := by
  have hfeed := feed_flatten {} cut
  rw [hread] at hfeed
  exact length_behind_lt hfeed

/-- The lines that one call after another gives, until the client is gone. -/
def readLines (cut : List (List UInt8)) : List Line :=
  match _ : ({} : LineReader).readLine cut with
  | .line line unread => line :: readLines unread
  | .disconnected => []
termination_by cut.flatten.length
decreasing_by exact length_unread_lt ‹_›

theorem readLines_of_line {cut unread : List (List UInt8)} {line : Line}
    (hread : ({} : LineReader).readLine cut = .line line unread) :
    readLines cut = line :: readLines unread := by
  rw [readLines]
  split
  · next hline =>
      rw [hread] at hline
      cases hline
      rfl
  · next hgone =>
      rw [hread] at hgone
      cases hgone

theorem readLines_of_disconnected {cut : List (List UInt8)}
    (hread : ({} : LineReader).readLine cut = .disconnected) : readLines cut = [] := by
  rw [readLines]
  split
  · next hline =>
      rw [hread] at hline
      cases hline
  · rfl

/-- One line for every line feed. -/
theorem readLines_eq {cut lines : List (List UInt8)} {rest : List UInt8}
    (hsegments : Segments cut.flatten lines rest) : readLines cut = lines.map .ofBytes := by
  induction lines generalizing cut with
  | nil => exact readLines_of_disconnected (readLine_of_rest hsegments)
  | cons line more ih =>
      obtain ⟨unread, hread, hunread⟩ := readLine_of_segments hsegments
      rw [readLines_of_line hread, ih hunread, List.map_cons]

theorem exists_segments (stream : List UInt8) : ∃ lines rest, Segments stream lines rest := by
  induction stream with
  | nil => exact ⟨[], [], rfl, List.forall_mem_nil _, List.not_mem_nil⟩
  | cons b stream ih =>
      obtain ⟨lines, rest, hwhole, hended, hrest⟩ := ih
      by_cases hb : b = byteFeed
      · have hfirst : byteFeed ∉ ([] : List UInt8) ∧ [b] = [] ++ [byteFeed] := by simp [hb]
        exact ⟨[b] :: lines, rest, by simp [hwhole],
          List.forall_mem_cons.mpr ⟨⟨[], hfirst⟩, hended⟩, hrest⟩
      · -- The byte is in front of the first line that ends, or of the one that does not.
        cases lines with
        | nil => exact ⟨[], b :: rest, by simp [hwhole], hended, by simp [Ne.symm hb, hrest]⟩
        | cons line more =>
            obtain ⟨⟨content, hcontent, hline⟩, hmore⟩ := List.forall_mem_cons.mp hended
            have hfirst : byteFeed ∉ b :: content ∧ b :: line = (b :: content) ++ [byteFeed] := by
              simp [Ne.symm hb, hcontent, hline]
            exact ⟨(b :: line) :: more, rest, by simp [hwhole],
              List.forall_mem_cons.mpr ⟨⟨b :: content, hfirst⟩, hmore⟩, hrest⟩

end LineReader

namespace Turn

variable {W : Type u}

/-- A turn that is about to read a line, and what it does with one. -/
inductive Awaits (service : Service W) (t : Turn W) : (Line → Turn W → Turn W) → Prop
  | command (hphase : t.phase = .command {}) :
      Awaits service t fun line t => t.takeLine service line
  | response (step : AuthStep) (hphase : t.phase = .response step {}) :
      Awaits service t fun line t => t.takeResponse service step line

/-- What a turn that is about to read a line does with reads behind which the client is gone. -/
def takeNext (service : Service W) (take : Line → Turn W → Turn W) (cut : List (List UInt8))
    (t : Turn W) : Turn W :=
  match ({} : LineReader).readLine cut with
  | .line line unread =>
      (take line (t.countRead (cut.flatten.length - unread.flatten.length))).run service
        (reads unread)
  | .disconnected => (t.countRead cut.flatten.length).close service

variable {service : Service W} {t : Turn W}

theorem run_reads_eq (cut : List (List UInt8)) :
    t.run service (reads cut) = (t.receive service cut.flatten).endInput service := by
  rw [← run_bytes service t cut]
  exact List.foldl_append

theorem Awaits.reader_eq {take : Line → Turn W → Turn W} (hawaits : t.Awaits service take)
    {reader : LineReader}
    (hreader : t.phase = .command reader ∨ ∃ step, t.phase = .response step reader) :
    reader = {} := by
  cases hawaits with
  | command hphase =>
      rw [hphase] at hreader
      simpa [eq_comm] using hreader
  | response step hphase =>
      rw [hphase] at hreader
      simpa [eq_comm] using hreader

/-- A connection takes its lines one by one, and ends where the client is gone. -/
theorem Awaits.run_takeNext {take : Line → Turn W → Turn W} (hawaits : t.Awaits service take)
    (cut : List (List UInt8)) : t.run service (reads cut) = t.takeNext service take cut := by
  have hfeed := LineReader.feed_flatten {} cut
  rw [run_reads_eq, takeNext]
  cases hread : ({} : LineReader).readLine cut with
  | line line unread =>
      rw [hread] at hfeed
      simp only [run_reads_eq]
      cases hawaits with
      | command hphase => rw [receive_of_command service hphase hfeed]
      | response step hphase => rw [receive_of_response service hphase hfeed]
  | disconnected =>
      rw [hread] at hfeed
      obtain ⟨next, hfeed⟩ := hfeed
      have hempty : t.advance service [] = (t, []) := by
        refine advance_nil service t fun reader hreader => ?_
        rw [hawaits.reader_eq hreader]
        rfl
      rw [← receive_advance service t hempty]
      cases hawaits with
      | command hphase =>
          rw [advance_command service t hphase, Turn.readLine, hfeed, receive]
          exact close_inPhase ..
      | response step hphase =>
          rw [advance_response service t hphase, Turn.readLine, hfeed, receive]
          exact close_inPhase ..

variable {after : Turn W}

theorem Exchanged.held_eq (hexchanged : Exchanged service t after) : after.phase.held = [] := by
  cases hexchanged with
  | refused | challenged | rejected | accepted => simp [Phase.held]

theorem Handled.held_eq {line : CommandLine} (hhandled : Handled service line t after) :
    after.phase.held = [] := by
  cases hhandled with
  | auth _ hverb hobstacle hexchanged => exact hexchanged.held_eq
  | quit message hverb => simp [close_phase, Phase.held]
  | refused | idle | reset | greeted | greetingRefused | senderAccepted | senderRefused
  | recipientAccepted | recipientRefused | bodyAwaited | handshakeAwaited | proxied | xclient =>
      simp [Phase.held]

/-- No move makes a connection hold more of a line than it may have. -/
theorem Move.length_held_le {signal : Signal} (hmove : Move service t signal after)
    (ht : t.phase.held.length ≤ maxLineLength) : after.phase.held.length ≤ maxLineLength := by
  cases hmove with
  | unheard | unasked | finished => exact ht
  | passed b phase hpasses =>
      change phase.held.length ≤ maxLineLength
      generalize t.phase = before at hpasses ht
      cases hpasses with
      | command reader hb => exact LineReader.length_held_add ht [b]
      | response step reader hb => exact LineReader.length_held_add ht [b]
      | body decoder hb => exact Nat.zero_le _
  | handled reader text _ hphase hline hhandled => simp [hhandled.held_eq]
  | exchanged step reader _ hphase hexchanged => simp [hexchanged.held_eq]
  | bodyEnded b outcome _ hread hended =>
      cases hended with
      | tooBig | bodyRefused | messageRefused | messageAccepted => simp [Phase.held]
  | opened h _ hphase hbegun =>
      cases hbegun with
      | refused mid r hrun => simp [close_phase, Phase.held]
      | greeted mid hrun => simp [Phase.held]
  | overlong | upgraded => simp [Phase.held, Turn.upgraded]
  | openingFailed | upgradeFailed | ended | timedOut | expired => simp [close_phase, Phase.held]

theorem Awaits.length_held_le {take : Line → Turn W → Turn W} (hawaits : t.Awaits service take)
    (inputs : List Input) : (t.run service inputs).phase.held.length ≤ maxLineLength := by
  refine run_induction (motive := fun t => t.phase.held.length ≤ maxLineLength)
    (fun _ _ _ hmove => hmove.length_held_le) inputs ?_
  cases hawaits with
  | command hphase => simp [hphase, Phase.held]
  | response step hphase => simp [hphase, Phase.held]

end Turn

namespace LineReader

/-- Whatever bytes a client sends before it is gone, and however they are cut into pieces: one call
after another gives a line for every line feed and no line for what stands behind the last; each
call leaves unread what is behind its line, and holds no more of the line than it may have.  This is
how a connection takes its lines, and no more is held whatever it receives. -/
theorem reads_lines (cut : List (List UInt8)) :
    (∃ lines rest, Segments cut.flatten lines rest) ∧
    (∀ lines rest, Segments cut.flatten lines rest → readLines cut = lines.map .ofBytes) ∧
    (∀ line more rest, Segments cut.flatten (line :: more) rest →
      ∃ unread, ({} : LineReader).readLine cut = .line (.ofBytes line) unread ∧
        Segments unread.flatten more rest) ∧
    (∀ rest, Segments cut.flatten [] rest → ({} : LineReader).readLine cut = .disconnected) ∧
    (∀ r ∈ ({} : LineReader).passes cut, r.held.length ≤ maxLineLength) ∧
    ∀ (W : Type u) (service : Service W) (t : Turn W) take, t.Awaits service take →
      t.run service (reads cut) = t.takeNext service take cut ∧
      ∀ inputs, (t.run service inputs).phase.held.length ≤ maxLineLength := by
  refine ⟨exists_segments cut.flatten, ?_, ?_, ?_, ?_, ?_⟩
  · intro lines rest hsegments
    exact readLines_eq hsegments
  · intro line more rest hsegments
    exact readLine_of_segments hsegments
  · intro rest hsegments
    exact readLine_of_rest hsegments
  · exact length_held_of_mem_passes (Nat.zero_le _) cut
  · intro W service t take hawaits
    exact ⟨hawaits.run_takeNext cut, hawaits.length_held_le⟩

theorem reads_lines_two :
    let cut := [[0x41, 0x0D], [0x0A, 0x42], [0x0A, 0x43]]
    Segments cut.flatten [[0x41, 0x0D, 0x0A], [0x42, 0x0A]] [0x43] ∧
      readLines cut = [.text "A", .text "B"] ∧
      (∃ unread, ({} : LineReader).readLine cut = .line (.text "A") unread ∧
        Segments unread.flatten [[0x42, 0x0A]] [0x43]) ∧
      ({} : LineReader).readLine [[0x43]] = .disconnected ∧
      Sample.start.Awaits Sample.service (fun line t => t.takeLine Sample.service line) ∧
      Sample.start.run Sample.service (reads cut) =
        Sample.start.takeNext Sample.service (fun line t => t.takeLine Sample.service line)
          cut := by
  intro cut
  have hfirst : ∃ content, byteFeed ∉ content ∧ [0x41, 0x0D, 0x0A] = content ++ [byteFeed] :=
    ⟨[0x41, 0x0D], by decide, rfl⟩
  have hsecond : ∃ content, byteFeed ∉ content ∧ [0x42, 0x0A] = content ++ [byteFeed] :=
    ⟨[0x42], by decide, rfl⟩
  have hsegments : Segments cut.flatten [[0x41, 0x0D, 0x0A], [0x42, 0x0A]] [0x43] := by
    refine ⟨rfl, ?_, by decide⟩
    simpa using ⟨hfirst, hsecond⟩
  have hawaits : Sample.start.Awaits Sample.service fun line t => t.takeLine Sample.service line :=
    .command (by decide +kernel)
  have hA : Line.ofBytes [0x41, 0x0D, 0x0A] = .text "A" := by decide +kernel
  have hB : Line.ofBytes [0x42, 0x0A] = .text "B" := by decide +kernel
  obtain ⟨-, hall, hnext, -, -, hrun⟩ := reads_lines.{0} cut
  refine ⟨hsegments, ?_, ?_, ?_, hawaits, (hrun _ _ _ _ hawaits).1⟩
  · rw [hall _ _ hsegments, List.map_cons, List.map_singleton, hA, hB]
  · rw [← hA]
    exact hnext _ _ _ hsegments
  · exact (reads_lines.{0} [[0x43]]).2.2.2.1 _ ⟨rfl, List.forall_mem_nil _, by decide⟩

end LineReader
end MailIntake
