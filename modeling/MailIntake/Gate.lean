/-!
The gate that keeps the number of connections in service within a limit.
-/
namespace MailIntake

/-- A gate: how many may pass at a time, and how many have. -/
structure Gate where
  capacity : Nat
  taken : Nat := 0
deriving DecidableEq, Repr

namespace Gate

/-- The greatest capacity of a gate: 61 bits, all set. -/
def maxCapacity : Nat := 2305843009213693951

def ofLimit (limit : Nat) : Gate :=
  { capacity := min limit maxCapacity }

/-- Lets one more pass if there is room. -/
def enter? (g : Gate) : Option Gate :=
  if g.taken < g.capacity then some { g with taken := g.taken + 1 } else none

def leave (g : Gate) : Gate :=
  { g with taken := g.taken - 1 }

end Gate
end MailIntake
