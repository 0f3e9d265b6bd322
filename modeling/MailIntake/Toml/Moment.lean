import MailIntake.Text.Ascii
/-!
Dates and times of TOML texts.  A date has the form `1979-05-27`, a time the form `07:32:00.5`;
seconds and their fraction may be left out.  Both may stand together, with or without an offset from
universal time.  A moment is written in one form only: `T` in front of the time, the seconds given,
the fraction as short as it can be.
-/
namespace MailIntake.Toml

open Text

/-- What a reader makes of the head of a text, and what follows it. -/
abbrev Read (A : Type) := List Char → Option (A × List Char)

def behind? (c : Char) : List Char → Option (List Char)
  | [] => none
  | d :: rest => if d = c then some rest else none

/-- A number of exactly `count` decimal digits within bounds. -/
def field? (count low high : Nat) : Read Nat := fun text => do
  let digits := text.take count
  if digits.length < count then none
  else
    let n ← Ascii.number? digits
    if low ≤ n ∧ n ≤ high then return (n, text.drop count) else none

/-- A number in decimal digits, with zeros in front up to a width. -/
def padded (width n : Nat) : List Char :=
  let digits := Nat.toDigits 10 n
  List.replicate (width - digits.length) '0' ++ digits

structure Date where
  year : Nat
  month : Nat
  day : Nat
deriving DecidableEq, Repr

def daysOf (year month : Nat) : Nat :=
  if month = 2 then
    if year % 4 = 0 ∧ (year % 100 ≠ 0 ∨ year % 400 = 0) then 29 else 28
  else if month = 4 ∨ month = 6 ∨ month = 9 ∨ month = 11 then 30
  else 31

def Date.read : Read Date := fun text => do
  let (year, text) ← field? 4 0 9999 text
  let (month, text) ← field? 2 1 12 (← behind? '-' text)
  let (day, text) ← field? 2 1 (daysOf year month) (← behind? '-' text)
  return (⟨year, month, day⟩, text)

def Date.render (d : Date) : List Char :=
  padded 4 d.year ++ '-' :: padded 2 d.month ++ '-' :: padded 2 d.day

structure Time where
  hour : Nat
  minute : Nat
  second : Nat := 0
  nanosecond : Nat := 0
deriving DecidableEq, Repr

/-- The nanoseconds that the digits of a fraction write; digits behind the ninth do not count. -/
def nanoseconds (digits : List Char) : Nat :=
  (Ascii.number? ((digits ++ List.replicate 9 '0').take 9)).getD 0

/-- Reads a time of day, whose seconds may be left out. -/
def Time.read : Read Time := fun text => do
  let (hour, text) ← field? 2 0 23 text
  let (minute, text) ← field? 2 0 59 (← behind? ':' text)
  match behind? ':' text with
  | none => return (⟨hour, minute, 0, 0⟩, text)
  | some text =>
      let (second, text) ← field? 2 0 60 text
      match behind? '.' text with
      | none => return (⟨hour, minute, second, 0⟩, text)
      | some fraction =>
          match fraction.takeWhile Char.isDigit with
          | [] => none
          | digits =>
              return (⟨hour, minute, second, nanoseconds digits⟩, fraction.drop digits.length)

def Time.render (t : Time) : List Char :=
  padded 2 t.hour ++ ':' :: padded 2 t.minute ++ ':' :: padded 2 t.second
    ++ match dropTailWhile (· == '0') (padded 9 t.nanosecond) with
      | [] => []
      | digits => '.' :: digits

/-- How far a time is ahead of universal time. -/
inductive Offset
  /-- The time is universal time. -/
  | universal
  /-- The time is ahead by some minutes. -/
  | ahead (minutes : Int)
deriving DecidableEq, Repr

/-- Reads an offset, which is less than a day. -/
def Offset.read : Read Offset
  | 'Z' :: rest | 'z' :: rest => some (.universal, rest)
  | sign :: rest =>
      if sign = '+' ∨ sign = '-' then do
        let (hours, rest) ← field? 2 0 23 rest
        let (minutes, rest) ← field? 2 0 59 (← behind? ':' rest)
        let total : Int := hours * 60 + minutes
        return (.ahead (if sign = '-' then -total else total), rest)
      else none
  | [] => none

def Offset.render : Offset → List Char
  | .universal => ['Z']
  | .ahead minutes =>
      (if minutes < 0 then '-' else '+') :: padded 2 (minutes.natAbs / 60)
        ++ ':' :: padded 2 (minutes.natAbs % 60)

/-- A date, a time, or a date and a time with or without an offset. -/
inductive Moment
  | date (d : Date)
  | time (t : Time)
  | both (d : Date) (t : Time) (offset : Option Offset)
deriving DecidableEq, Repr

def Moment.parse? (text : List Char) : Option Moment :=
  match Date.read text with
  | none =>
      match Time.read text with
      | some (t, []) => some (.time t)
      | _ => none
  | some (d, []) => some (.date d)
  | some (d, mark :: rest) =>
      if mark = 'T' ∨ mark = 't' ∨ mark = ' ' then
        match Time.read rest with
        | none => none
        | some (t, []) => some (.both d t none)
        | some (t, rest) =>
            match Offset.read rest with
            | some (offset, []) => some (.both d t (some offset))
            | _ => none
      else none

def Moment.render (m : Moment) : String :=
  String.ofList <|
    match m with
    | .date d => d.render
    | .time t => t.render
    | .both d t offset => d.render ++ 'T' :: t.render ++ (offset.map Offset.render).getD []

example : (Moment.parse? "1979-05-27 07:32:00.500z".toList).map Moment.render =
    some "1979-05-27T07:32:00.5Z" := by decide +kernel
example : (Moment.parse? "1979-05-27T00:00-00:00".toList).map Moment.render =
    some "1979-05-27T00:00:00+00:00" := by decide +kernel
example : Moment.parse? "1979-02-29".toList = none := by decide +kernel

end MailIntake.Toml
