import MailIntake.Text.Ascii
/-!
Points in time, and the form in which mail writes them: `Thu, 1 Jan 1970 00:00:00 +0000`.
-/
namespace MailIntake

open Text

/-- A point in time: whole seconds since the start of 1970. -/
structure Moment where
  seconds : Nat
deriving DecidableEq, Repr

namespace Moment

structure Day where
  year : Nat
  month : Nat
  day : Nat
deriving DecidableEq, Repr

/-- The day that many days after the start of 1970.  Years are counted from March, so that a leap
day is the last of its year, and eras have 400 years. -/
def dayOf (days : Nat) : Day :=
  let shifted := days + 719468
  let era := shifted / 146097
  let dayOfEra := shifted % 146097
  let yearOfEra :=
    (dayOfEra - dayOfEra / 1460 + dayOfEra / 36524 - dayOfEra / 146096) / 365
  let dayOfYear := dayOfEra - (365 * yearOfEra + yearOfEra / 4 - yearOfEra / 100)
  let marchMonth := (5 * dayOfYear + 2) / 153
  let day := dayOfYear - (153 * marchMonth + 2) / 5 + 1
  let month := if marchMonth < 10 then marchMonth + 3 else marchMonth - 9
  ⟨yearOfEra + era * 400 + if month ≤ 2 then 1 else 0, month, day⟩

/-- Names of the months, January first. -/
def monthNames : List String :=
  ["Jan", "Feb", "Mar", "Apr", "May", "Jun", "Jul", "Aug", "Sep", "Oct", "Nov", "Dec"]

/-- Names of the days of the week from the first day of 1970 on. -/
def dayNames : List String := ["Thu", "Fri", "Sat", "Sun", "Mon", "Tue", "Wed"]

/-- The date and time in a mail header.  The day of the month is not padded. -/
def render (m : Moment) : String :=
  let days := m.seconds / 86400
  let time := m.seconds % 86400
  let d := dayOf days
  dayNames.getD (days % 7) "" ++ ", " ++ toString d.day ++ " " ++ monthNames.getD (d.month - 1) ""
    ++ " " ++ Ascii.paddedNumber 4 d.year ++ " " ++ Ascii.paddedNumber 2 (time / 3600) ++ ":"
    ++ Ascii.paddedNumber 2 (time % 3600 / 60) ++ ":" ++ Ascii.paddedNumber 2 (time % 60)
    ++ " +0000"

example : (Moment.mk 0).render = "Thu, 1 Jan 1970 00:00:00 +0000" := by decide +kernel
example : (Moment.mk 1795117348).render = "Thu, 19 Nov 2026 19:42:28 +0000" := by decide +kernel
example : (Moment.mk 951782400).render = "Tue, 29 Feb 2000 00:00:00 +0000" := by decide +kernel

end Moment
end MailIntake
