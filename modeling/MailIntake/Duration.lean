import MailIntake.Text.Ascii
import MailIntake.Text.Blank
/-!
Spans of time as settings write them.  A span is written in units from years down to nanoseconds,
parts that are zero left out; it is read as a sum of numbers with units, each with a fraction that
must come out even.
-/
namespace MailIntake

open Text

/-- A span of time: whole seconds in 64 bits, and nanoseconds below one second. -/
structure Duration where
  seconds : UInt64
  nanos : Fin 1000000000
deriving DecidableEq, Repr

namespace Duration

def ofSeconds (seconds : UInt64) : Duration :=
  ⟨seconds, 0⟩

/-- Units in which a span is read. -/
inductive TimeUnit
  | nanosecond
  | microsecond
  | millisecond
  | second
  | minute
  | hour
  | day
  | week
  | month
  | year
deriving DecidableEq, Repr

def TimeUnit.ofName? (name : String) : Option TimeUnit :=
  if ["nanos", "nsec", "ns"].contains name then some .nanosecond
  else if ["usec", "us", "µs"].contains name then some .microsecond
  else if ["millis", "msec", "ms"].contains name then some .millisecond
  else if ["seconds", "second", "secs", "sec", "s"].contains name then some .second
  else if ["minutes", "minute", "mins", "min", "m"].contains name then some .minute
  else if ["hours", "hour", "hrs", "hr", "h"].contains name then some .hour
  else if ["days", "day", "d"].contains name then some .day
  else if ["weeks", "week", "wks", "wk", "w"].contains name then some .week
  else if ["months", "month", "M"].contains name then some .month
  else if ["years", "year", "yrs", "yr", "y"].contains name then some .year
  else none

/-- Seconds in a unit of at least one second; a month is 30.44 days and a year 365.25. -/
def TimeUnit.seconds : TimeUnit → Nat
  | .nanosecond | .microsecond | .millisecond => 0
  | .second => 1
  | .minute => 60
  | .hour => 3600
  | .day => 86400
  | .week => 604800
  | .month => 2630016
  | .year => 31557600

def TimeUnit.nanos : TimeUnit → Nat
  | .nanosecond => 1
  | .microsecond => 1000
  | .millisecond => 1000000
  | _ => 0

/-- Seconds and nanoseconds of which a fraction of the unit is taken.  Fractions of an hour and
more must come out as whole seconds; a nanosecond has no fractions. -/
def TimeUnit.divisible? : TimeUnit → Option (Nat × Nat)
  | .nanosecond => none
  | .microsecond => some (0, 1000)
  | .millisecond => some (0, 1000000)
  | .second => some (0, 1000000000)
  | .minute => some (0, 60000000000)
  | unit => some (unit.seconds, 0)

/-- A number if it fits into 64 bits. -/
def fits (n : Nat) : Option Nat :=
  if n < UInt64.size then some n else none

/-- The sum of a span and further seconds and nanoseconds. -/
def add? (d : Duration) (seconds nanos : Nat) : Option Duration := do
  let nanos ← fits (d.nanos.val + nanos)
  let seconds ← fits (seconds + nanos / 1000000000)
  let seconds ← fits (d.seconds.toNat + seconds)
  return ⟨UInt64.ofNat seconds, Fin.ofNat _ nanos⟩

/-- A fraction of one unit: `numerator` over ten to the power of `places`. -/
structure Fraction where
  numerator : Nat
  places : Nat

/-- An exact quotient in 64 bits. -/
def exactly (product divisor : Nat) : Option Nat := do
  let product ← fits product
  if product % divisor = 0 then return product / divisor else none

/-- A number of units and a fraction of one, added to a span. -/
def addUnits? (d : Duration) (n : Nat) (fraction : Option Fraction) (unit : TimeUnit) :
    Option Duration := do
  let d ← d.add? (← fits (n * unit.seconds)) (← fits (n * unit.nanos))
  match fraction with
  | none => return d
  | some f =>
      let (seconds, nanos) ← unit.divisible?
      let divisor ← fits (Nat.pow 10 f.places)
      d.add? (← exactly (f.numerator * seconds) divisor) (← exactly (f.numerator * nanos) divisor)

def isUnitChar (c : Char) : Bool :=
  c.isAlpha || c == 'µ'

/-- Characters of a number: blanks may stand between its digits. -/
def isNumberChar (c : Char) : Bool :=
  c.isDigit || isBlank c

/-- The number that the digits of a run write, none being zero. -/
def digitsValue (run : List Char) : Nat :=
  (Ascii.number? (run.filter Char.isDigit)).getD 0

/-- The fraction behind a decimal point, which needs a digit, and what follows it.  Without a
decimal point there is none. -/
def readFraction (text : List Char) : Option (Option Fraction × List Char) :=
  match text with
  | '.' :: rest =>
      let run := rest.takeWhile isNumberChar
      let places := (run.filter Char.isDigit).length
      if places = 0 then none
      else some (some ⟨digitsValue run, places⟩, rest.dropWhile isNumberChar)
  | _ => some (none, text)

/-- The sum of the numbers with units in a text, added to a span.  The count bounds how many there
are; the length of the text is enough. -/
def sum? : Nat → Duration → List Char → Option Duration
  | 0, _, _ => none
  | more + 1, d, text =>
      match text.dropWhile isBlank with
      | [] => some d
      | c :: rest =>
          if c.isDigit then do
            let run := (c :: rest).takeWhile isNumberChar
            let n ← fits (digitsValue run)
            let (fraction, behind) ← readFraction ((c :: rest).dropWhile isNumberChar)
            let unit ← TimeUnit.ofName? (String.ofList (behind.takeWhile isUnitChar))
            let d ← d.addUnits? n fraction unit
            sum? more d (behind.dropWhile isUnitChar)
          else none

/-- The span that a text denotes: a lone zero, or numbers with units. -/
def parse? (text : String) : Option Duration :=
  if text = "0" then some (ofSeconds 0)
  else if text.toList.all isBlank then none
  else sum? (text.length + 1) (ofSeconds 0) text.toList

/-- A number with a unit whose name stays the same for every number. -/
def item (n : Nat) (unit : String) : List String :=
  if n = 0 then [] else [toString n ++ unit]

/-- A number with a unit whose name takes an `s` from two on. -/
def itemPlural (n : Nat) (unit : String) : List String :=
  if n = 0 then [] else [toString n ++ unit ++ if n = 1 then "" else "s"]

/-- The parts of a span from years to nanoseconds, those that are zero left out. -/
def parts (d : Duration) : List String :=
  let seconds := d.seconds.toNat
  let inYear := seconds % 31557600
  let inMonth := inYear % 2630016
  let inDay := inMonth % 86400
  let nanos := d.nanos.val
  itemPlural (seconds / 31557600) "year" ++ itemPlural (inYear / 2630016) "month"
    ++ itemPlural (inMonth / 86400) "day" ++ item (inDay / 3600) "h"
    ++ item (inDay % 3600 / 60) "m" ++ item (inDay % 60) "s" ++ item (nanos / 1000000) "ms"
    ++ item (nanos / 1000 % 1000) "us" ++ item (nanos % 1000) "ns"

def render (d : Duration) : String :=
  match d.parts with
  | [] => "0s"
  | parts => " ".intercalate parts

example : (parse? "1.5h").map render = some "1h 30m" := by decide +kernel
example : (parse? "0.0000000001s") = none := by decide +kernel
example : (ofSeconds 18446744073709551615).render = "584542046090years 7months 15days 17h 5m 3s" := by
  decide +kernel

end Duration
end MailIntake
