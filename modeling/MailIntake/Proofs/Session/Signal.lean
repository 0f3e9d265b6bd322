import MailIntake.Proofs.Session.Phase
/-!
A connection byte by byte.  How bytes are cut into chunks makes no difference: a run is a fold over
signals, and a signal is one byte or one thing other than bytes (`run_eq_heedAll`).
-/
namespace MailIntake

universe u

namespace LineReader

/-- A reader given a piece and then another is a reader given both. -/
theorem add_add (r : LineReader) (front back : List UInt8) :
    (r.add front).add back = r.add (front ++ back) := by
  obtain ⟨held, discarding⟩ := r
  cases discarding with
  | true => rfl
  | false =>
      by_cases hfront : maxLineLength < held.length + front.length
      · have hboth : maxLineLength < held.length + (front ++ back).length := by
          rw [List.length_append]
          omega
        simp only [add, Bool.false_eq_true, if_false, if_pos hfront, if_pos hboth, if_true]
      · simp only [add, Bool.false_eq_true, if_false, if_neg hfront, List.length_append,
          List.append_assoc, Nat.add_assoc]

theorem feed_feed (r : LineReader) (rest : List UInt8) :
    r.feed (byteFeed :: rest) = .line (r.add [byteFeed]).finish rest := by
  simp [feed, cutAtFeed]

theorem feed_cons (r : LineReader) {b : UInt8} (hb : b ≠ byteFeed) (rest : List UInt8) :
    r.feed (b :: rest) = (r.add [b]).feed rest := by
  rw [feed, feed, cutAtFeed, if_neg hb]
  cases cutAtFeed rest with
  | none => simp [add_add]
  | some cut => simp [add_add]

end LineReader

/-- The smallest thing that can happen to a connection from outside. -/
inductive Signal
  | byte (b : UInt8)
  | handshake (result : Option Turn.Handshake)
  | ended
  | expired
deriving DecidableEq, Repr

def Input.signals : Input → List Signal
  | .bytes chunk => chunk.map .byte
  | .handshake result => [.handshake result]
  | .ended => [.ended]
  | .expired => [.expired]

def Signal.byte? : Signal → Option UInt8
  | .byte b => some b
  | .handshake _ | .ended | .expired => none

def received (signals : List Signal) : List UInt8 :=
  signals.filterMap Signal.byte?

theorem received_append (front back : List Signal) :
    received (front ++ back) = received front ++ received back :=
  List.filterMap_append

namespace Turn

variable {W : Type u}

def takeByte (service : Service W) (t : Turn W) (b : UInt8) : Turn W :=
  match t.phase with
  | .command reader =>
      if b = LineReader.byteFeed then
        (t.countRead 1).takeLine service (reader.add [b]).finish
      else { t with phase := .command (reader.add [b]) }.countRead 1
  | .response step reader =>
      if b = LineReader.byteFeed then
        (t.countRead 1).takeResponse service step (reader.add [b]).finish
      else { t with phase := .response step (reader.add [b]) }.countRead 1
  | .body decoder =>
      if decoder.endsWith b then (t.countRead 1).endBody service decoder.finish
      else { t with phase := .body (decoder.step b) }.countRead 1
  | .opening | .handshake | .closed => t

def heed (service : Service W) (t : Turn W) : Signal → Turn W
  | .byte b => t.takeByte service b
  | .handshake result => t.endHandshake service result
  | .ended => t.endInput service
  | .expired => t.expire service

def heedAll (service : Service W) (t : Turn W) (signals : List Signal) : Turn W :=
  signals.foldl (heed service) t

variable (service : Service W) (t : Turn W)

theorem heedAll_append (front back : List Signal) :
    t.heedAll service (front ++ back) = (t.heedAll service front).heedAll service back :=
  List.foldl_append

/-- A phase in which bytes are not read. -/
theorem receive_of_deaf (hdeaf : t.phase = .opening ∨ t.phase = .handshake ∨ t.phase = .closed)
    (chunk : List UInt8) : t.receive service chunk = t := by
  cases chunk with
  | nil => rw [receive]
  | cons b rest =>
      have hadvance : t.advance service (b :: rest) = (t, []) := by
        rcases hdeaf with h | h | h
        · rw [advance, h]
        · rw [advance, h]
        · rw [advance, h]
      rw [receive, hadvance, receive]

theorem length_cons_sub {A : Type u} (a : A) {rest behind : List A}
    (hlength : behind.length < rest.length) :
    (a :: rest).length - behind.length = 1 + (rest.length - behind.length) := by
  rw [List.length_cons]
  omega

/-- A turn behind one more byte of something that goes on. -/
def passByte (t : Turn W) (phase : Phase) : Turn W :=
  (t.countRead 1).inPhase phase

theorem countRead_passByte (phase : Phase) (bytes : Nat) :
    (t.passByte phase).countRead bytes = (t.countRead (1 + bytes)).inPhase phase := by
  simp [passByte, inPhase, countRead, Nat.add_assoc]

def readLine (wait : LineReader → Phase) (take : Line → Turn W → Turn W) (reader : LineReader)
    (t : Turn W) (chunk : List UInt8) : Turn W × List UInt8 :=
  match reader.feed chunk with
  | .more reader => ((t.countRead chunk.length).inPhase (wait reader), [])
  | .line line behind => (take line (t.countRead (chunk.length - behind.length)), behind)

theorem advance_command {reader : LineReader} (hphase : t.phase = .command reader)
    (chunk : List UInt8) :
    t.advance service chunk =
      t.readLine .command (fun line t => t.takeLine service line) reader chunk := by
  rw [advance, hphase]
  rfl

theorem advance_response {step : AuthStep} {reader : LineReader}
    (hphase : t.phase = .response step reader) (chunk : List UInt8) :
    t.advance service chunk =
      t.readLine (.response step) (fun line t => t.takeResponse service step line) reader
        chunk := by
  rw [advance, hphase]
  rfl

/-- A byte inside a line can be taken up before the others arrive. -/
theorem readLine_cons (wait : LineReader → Phase) {take : Line → Turn W → Turn W}
    (htake : ∀ line t phase, take line (inPhase t phase) = take line t) {reader : LineReader}
    {b : UInt8} (hb : b ≠ LineReader.byteFeed) (phase : Phase) (rest : List UInt8) :
    t.readLine wait take reader (b :: rest) =
      (t.passByte phase).readLine wait take (reader.add [b]) rest := by
  rw [readLine, readLine, LineReader.feed_cons _ hb]
  cases hfeed : (reader.add [b]).feed rest with
  | more next =>
      simp only [List.length_cons, Nat.add_comm rest.length 1, countRead_passByte]
      rfl
  | line line behind =>
      simp only [length_cons_sub b (LineReader.length_behind_lt hfeed), countRead_passByte, htake]

theorem advance_command_cons {reader : LineReader} (hphase : t.phase = .command reader)
    {b : UInt8} (hb : b ≠ LineReader.byteFeed) (rest : List UInt8) :
    t.advance service (b :: rest) =
      (t.passByte (.command (reader.add [b]))).advance service rest := by
  rw [advance_command service t hphase, advance_command service _ rfl]
  exact readLine_cons t _ (fun line t phase => takeLine_inPhase ..) hb _ rest

theorem advance_response_cons {step : AuthStep} {reader : LineReader}
    (hphase : t.phase = .response step reader) {b : UInt8} (hb : b ≠ LineReader.byteFeed)
    (rest : List UInt8) :
    t.advance service (b :: rest) =
      (t.passByte (.response step (reader.add [b]))).advance service rest := by
  rw [advance_response service t hphase, advance_response service _ rfl]
  exact readLine_cons t _ (fun line t phase => takeResponse_inPhase ..) hb _ rest

/-- A byte inside a body can be taken up before the others arrive. -/
theorem advance_body_cons {decoder : DotDecoder} (hphase : t.phase = .body decoder) {b : UInt8}
    (hb : ¬ decoder.endsWith b) (rest : List UInt8) :
    t.advance service (b :: rest) =
      (t.passByte (.body (decoder.step b))).advance service rest := by
  have hnext : (t.passByte (.body (decoder.step b))).phase = .body (decoder.step b) := rfl
  have hcons : decoder.feed (b :: rest) = (decoder.step b).feed rest := by
    rw [DotDecoder.feed, if_neg hb]
  rw [advance, advance, hphase, hnext]
  simp only [hcons]
  cases hfeed : (decoder.step b).feed rest with
  | mk behind next =>
      cases behind with
      | none =>
          simp only [List.length_cons, Nat.add_comm rest.length 1]
          exact congrArg (·, []) (countRead_passByte t (.body next) rest.length).symm
      | some behind =>
          simp only [length_cons_sub b (DotDecoder.length_rest_lt hfeed), countRead_passByte,
            endBody_inPhase]

/-- A reader does not change without a byte. -/
theorem advance_nil (hfits : ∀ reader, t.phase = .command reader ∨
      (∃ step, t.phase = .response step reader) → reader.add [] = reader) :
    t.advance service [] = (t, []) := by
  obtain ⟨⟨transaction, phase, commands, tally, journal⟩, world⟩ := t
  cases phase with
  | opening | handshake | closed | body decoder => rfl
  | command reader =>
      have hadd := hfits reader (.inl rfl)
      simp [advance, LineReader.feed, LineReader.cutAtFeed, hadd, countRead]
  | response step reader =>
      have hadd := hfits reader (.inr ⟨step, rfl⟩)
      simp [advance, LineReader.feed, LineReader.cutAtFeed, hadd, countRead]

theorem receive_advance (hempty : t.advance service [] = (t, [])) (chunk : List UInt8) :
    (t.advance service chunk).1.receive service (t.advance service chunk).2 =
      t.receive service chunk := by
  cases chunk with
  | nil => rw [hempty]
  | cons b rest => exact (receive.eq_2 service t b rest).symm

/-- The first byte of a chunk can be taken up before the others arrive. -/
theorem receive_cons (b : UInt8) (rest : List UInt8) :
    t.receive service (b :: rest) = (t.takeByte service b).receive service rest := by
  -- Adding nothing can change a reader that holds too much, but not one that has just read.
  have hadd : ∀ reader : LineReader, (reader.add [b]).add [] = reader.add [b] := fun reader =>
    reader.add_add [b] []
  rw [receive]
  cases hphase : t.phase with
  | opening | handshake | closed =>
      rw [takeByte, receive_of_deaf _ _ (by simp [hphase]) rest, advance, hphase, receive]
  | command reader =>
      by_cases hb : b = LineReader.byteFeed
      · rw [takeByte, advance, hphase]
        simp only [hb, LineReader.feed_feed, if_true, List.length_cons, Nat.add_sub_cancel_left]
      · rw [advance_command_cons service t hphase hb, takeByte, hphase]
        simp only [if_neg hb]
        refine receive_advance service _ (advance_nil service _ ?_) rest
        rintro next (hnext | ⟨step, hnext⟩)
        · cases hnext
          exact hadd reader
        · cases hnext
  | response step reader =>
      by_cases hb : b = LineReader.byteFeed
      · rw [takeByte, advance, hphase]
        simp only [hb, LineReader.feed_feed, if_true, List.length_cons, Nat.add_sub_cancel_left]
      · rw [advance_response_cons service t hphase hb, takeByte, hphase]
        simp only [if_neg hb]
        refine receive_advance service _ (advance_nil service _ ?_) rest
        rintro next (hnext | ⟨step, hnext⟩)
        · cases hnext
        · cases hnext
          exact hadd reader
  | body decoder =>
      by_cases hb : decoder.endsWith b
      · rw [takeByte, advance, hphase]
        simp only [DotDecoder.feed, hb, if_true, List.length_cons, Nat.add_sub_cancel_left]
        rfl
      · rw [advance_body_cons service t hphase hb, takeByte, hphase]
        simp only [if_neg hb]
        refine receive_advance service _ (advance_nil service _ ?_) rest
        rintro next (hnext | ⟨step, hnext⟩)
        · cases hnext
        · cases hnext

/-- How bytes are cut into chunks makes no difference. -/
theorem receive_eq_foldl (chunk : List UInt8) :
    t.receive service chunk = chunk.foldl (takeByte service) t := by
  induction chunk generalizing t with
  | nil => rw [receive, List.foldl_nil]
  | cons b rest ih => rw [receive_cons, ih, List.foldl_cons]

theorem step_eq_heedAll (input : Input) :
    t.step service input = t.heedAll service input.signals := by
  cases input with
  | bytes chunk =>
      rw [step, receive_eq_foldl, heedAll, Input.signals, List.foldl_map]
      rfl
  | handshake result => rfl
  | ended => rfl
  | expired => rfl

/-- A run is the fold of its signals. -/
theorem run_eq_heedAll (inputs : List Input) :
    t.run service inputs = t.heedAll service (inputs.flatMap Input.signals) := by
  induction inputs generalizing t with
  | nil => rfl
  | cons input inputs ih =>
      have hstep : t.run service (input :: inputs) = (t.step service input).run service inputs :=
        rfl
      rw [hstep, ih, step_eq_heedAll, List.flatMap_cons, heedAll, heedAll, heedAll,
        List.foldl_append]

end Turn
end MailIntake
