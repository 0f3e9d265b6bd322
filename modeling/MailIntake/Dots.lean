/-!
Message bodies on the wire.  A line that begins with a dot is sent with a second dot before it, and
a line that is a lone dot ends the body.  Only CR LF ends a line: near misses such as a bare LF are
content, so nothing inside a body can end it early.  The decoder works byte by byte and keeps at
most `limit` bytes; beyond that it reads on to the end and reports the message as too big.
-/
namespace MailIntake

/-- Carriage return, line feed and dot. -/
def byteCR : UInt8 := 0x0D

@[inherit_doc byteCR]
def byteLF : UInt8 := 0x0A

@[inherit_doc byteCR]
def byteDot : UInt8 := 0x2E

/-- Where in a body the next byte stands. -/
inductive BodyPlace
  /-- At the start of the body or behind CR LF. -/
  | lineStart
  /-- Inside a line. -/
  | text
  /-- Behind a CR inside a line. -/
  | afterCr
  /-- Behind a dot at the start of a line. -/
  | afterDot
  /-- Behind a dot and a CR at the start of a line. -/
  | afterDotCr
deriving DecidableEq, Repr

/-- What became of a body. -/
inductive BodyOutcome
  /-- The body without its stuffed dots and its last line. -/
  | complete (body : List UInt8)
  /-- The body has more bytes than the limit. -/
  | tooBig
deriving DecidableEq, Repr

/-- A body being read. -/
structure DotDecoder where
  limit : Nat
  place : BodyPlace := .lineStart
  body : Array UInt8 := #[]
  overflow : Bool := false
  done : Bool := false
deriving DecidableEq, Repr

namespace DotDecoder

/-- Keeps one byte of content if there is room for it. -/
def keep (d : DotDecoder) (b : UInt8) : DotDecoder :=
  if d.body.size < d.limit then { d with body := d.body.push b } else { d with overflow := true }

/-- A byte of content that does not follow a CR. -/
def plain (d : DotDecoder) (b : UInt8) : DotDecoder :=
  { d.keep b with place := if b = byteCR then .afterCr else .text }

/-- A byte of content behind a CR. -/
def behindCr (d : DotDecoder) (b : UInt8) : DotDecoder :=
  { d.keep b with
    place := if b = byteLF then .lineStart else if b = byteCR then .afterCr else .text }

/-- Whether a byte ends the body. -/
def endsWith (d : DotDecoder) (b : UInt8) : Bool :=
  d.place = .afterDotCr && b = byteLF

/-- The decoder behind a byte that does not end the body. -/
def step (d : DotDecoder) (b : UInt8) : DotDecoder :=
  match d.place with
  | .lineStart => if b = byteDot then { d with place := .afterDot } else d.plain b
  | .text => d.plain b
  | .afterCr => d.behindCr b
  | .afterDot => if b = byteCR then { d with place := .afterDotCr } else d.plain b
  | .afterDotCr => (d.keep byteCR).behindCr b

/-- Reads a chunk up to the end of the body, and gives the bytes behind it if the end is there. -/
def feed (d : DotDecoder) : List UInt8 → Option (List UInt8) × DotDecoder
  | [] => (none, d)
  | b :: rest =>
      if d.endsWith b then (some rest, { d with done := true }) else (d.step b).feed rest

/-- What has become of the body so far. -/
def finish (d : DotDecoder) : BodyOutcome :=
  if d.overflow then .tooBig else .complete d.body.toList

theorem feed_append_of_none {d e : DotDecoder} {front : List UInt8}
    (hfront : d.feed front = (none, e)) (back : List UInt8) :
    d.feed (front ++ back) = e.feed back := by
  induction front generalizing d with
  | nil =>
      simp only [feed, Prod.mk.injEq, true_and] at hfront
      rw [hfront, List.nil_append]
  | cons b front ih =>
      rw [List.cons_append, feed]
      rw [feed] at hfront
      split at hfront
      · simp at hfront
      · next hends =>
          rw [if_neg hends]
          exact ih hfront

/-- What stands behind the end of a body is shorter than the chunk. -/
theorem length_rest_lt {d e : DotDecoder} {chunk rest : List UInt8}
    (hfeed : d.feed chunk = (some rest, e)) : rest.length < chunk.length := by
  induction chunk generalizing d with
  | nil => simp [feed] at hfeed
  | cons b more ih =>
      rw [feed] at hfeed
      split at hfeed
      · simp only [Prod.mk.injEq, Option.some.injEq] at hfeed
        simp [hfeed.1]
      · exact Nat.lt_succ_of_lt (ih hfeed)

end DotDecoder

/-- Where in the text of a body a dot would be stuffed. -/
inductive StuffPlace
  | lineStart
  | afterCr
  | inside
deriving DecidableEq, Repr

def StuffPlace.next (place : StuffPlace) (b : UInt8) : StuffPlace :=
  if place = .afterCr ∧ b = byteLF then .lineStart
  else if b = byteCR then .afterCr
  else .inside

/-- The bytes with a second dot before each dot at the start of a line. -/
def stuffFrom (place : StuffPlace) : List UInt8 → List UInt8
  | [] => []
  | b :: rest =>
      if place = .lineStart ∧ b = byteDot then b :: b :: stuffFrom (place.next b) rest
      else b :: stuffFrom (place.next b) rest

/-- A body as it is sent, without the line that ends it. -/
def stuff (body : List UInt8) : List UInt8 :=
  stuffFrom .lineStart body

end MailIntake
