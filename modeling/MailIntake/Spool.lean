import MailIntake.Metadata
/-!
The directory into which accepted messages are written, one file per name: writing under a name that
is taken replaces the file.
-/
namespace MailIntake

inductive Spool
  /-- There is no such directory, and nothing can be written. -/
  | missing
  | directory (files : Store (List UInt8))
deriving DecidableEq, Repr

namespace Spool

/-- Writes a file, if that is possible. -/
def write? (s : Spool) (name : String) (content : List UInt8) : Option Spool :=
  match s with
  | .missing => none
  | .directory files => some (.directory (files.insert name content))

/-- The files by name, in the order in which the names were first written. -/
def files : Spool → List (String × List UInt8)
  | .missing => []
  | .directory files => files.entries

end Spool
end MailIntake
