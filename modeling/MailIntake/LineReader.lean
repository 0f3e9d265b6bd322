import MailIntake.Text.Split
import MailIntake.Text.Utf8
/-!
Command lines in a byte stream.  The stream arrives in chunks that have nothing to do with lines; a
reader holds the part of a line that has arrived, up to a limit, and drops the line if it turns out
longer.  What follows the end of the line stays in the chunk.
-/
namespace MailIntake

open Text

/-- The most bytes of a line, its line feed included. -/
def maxLineLength : Nat := 4096

inductive Line
  | text (line : String)
  | tooLong
deriving DecidableEq, Repr

/-- A line that has arrived in part. -/
structure LineReader where
  held : List UInt8 := []
  /-- The line is too long, and the rest of it is dropped. -/
  discarding : Bool := false
deriving DecidableEq, Repr

namespace LineReader

def byteFeed : UInt8 := 0x0A

def isEnd (b : UInt8) : Bool :=
  b == 0x0A || b == 0x0D

/-- A chunk cut behind its first line feed, if it has one. -/
def cutAtFeed : List UInt8 → Option (List UInt8 × List UInt8)
  | [] => none
  | b :: rest =>
      if b = byteFeed then some ([b], rest)
      else (cutAtFeed rest).map fun (line, behind) => (b :: line, behind)

def add (r : LineReader) (piece : List UInt8) : LineReader :=
  if r.discarding then r
  else if maxLineLength < r.held.length + piece.length then { held := [], discarding := true }
  else { r with held := r.held ++ piece }

/-- The line that has arrived, without its line end; bytes that are not UTF-8 are replaced. -/
def finish (r : LineReader) : Line :=
  if r.discarding then .tooLong else .text (Utf8.decodeLossy (dropTailWhile isEnd r.held))

/-- What a chunk brings. -/
inductive Progress
  /-- The line goes on behind the chunk. -/
  | more (reader : LineReader)
  /-- The line ends in the chunk, with bytes behind it. -/
  | line (line : Line) (behind : List UInt8)
deriving DecidableEq, Repr

def feed (r : LineReader) (chunk : List UInt8) : Progress :=
  match cutAtFeed chunk with
  | none => .more (r.add chunk)
  | some (piece, behind) => .line (r.add piece).finish behind

theorem cutAtFeed_append {chunk piece behind : List UInt8}
    (hcut : cutAtFeed chunk = some (piece, behind)) : piece ++ behind = chunk := by
  induction chunk generalizing piece with
  | nil => simp [cutAtFeed] at hcut
  | cons b rest ih =>
      rw [cutAtFeed] at hcut
      split at hcut
      · simp only [Option.some.injEq, Prod.mk.injEq] at hcut
        simp [← hcut.1, ← hcut.2]
      · simp only [Option.map_eq_some_iff, Prod.exists, Prod.mk.injEq] at hcut
        obtain ⟨line, after, hline, rfl, rfl⟩ := hcut
        rw [List.cons_append, ih hline]

theorem cutAtFeed_ne_nil {chunk piece behind : List UInt8}
    (hcut : cutAtFeed chunk = some (piece, behind)) : piece ≠ [] := by
  cases chunk with
  | nil => simp [cutAtFeed] at hcut
  | cons b rest =>
      rw [cutAtFeed] at hcut
      split at hcut
      · simp only [Option.some.injEq, Prod.mk.injEq] at hcut
        simp [← hcut.1]
      · simp only [Option.map_eq_some_iff, Prod.exists, Prod.mk.injEq] at hcut
        obtain ⟨line, after, -, rfl, -⟩ := hcut
        simp

/-- What stands behind a line is shorter than the chunk. -/
theorem length_behind_lt {r : LineReader} {chunk behind : List UInt8} {line : Line}
    (hfeed : r.feed chunk = .line line behind) : behind.length < chunk.length := by
  rw [feed] at hfeed
  split at hfeed
  · simp at hfeed
  · next piece after hcut =>
      simp only [Progress.line.injEq] at hfeed
      obtain ⟨-, rfl⟩ := hfeed
      have hne := cutAtFeed_ne_nil hcut
      have happend := cutAtFeed_append hcut
      rw [← happend, List.length_append]
      exact Nat.lt_add_of_pos_left (List.length_pos_iff.mpr hne)

end LineReader

/-- Every line is found and nothing of the next one is taken. -/
example : ({} : LineReader).feed [0x41, 0x0D, 0x0A, 0x42] = .line (.text "A") [0x42] := by
  decide +kernel

end MailIntake
