import MailIntake.Address.Ip
/-!
Names and addresses as a resolver answers for them.  The server itself only looks up the names of a
client's address; checkers may ask for the rest.
-/
namespace MailIntake

open Address

/-- What became of a lookup. -/
inductive Lookup (A : Type)
  | found (answer : A)
  | failed (message : String)
  /-- The lookup goes on for ever. -/
  | pending
deriving DecidableEq, Repr

/-- A mail exchanger of a domain. -/
structure MxRecord where
  preference : UInt16
  exchange : String
deriving DecidableEq, Repr

structure Resolver where
  addresses : String → Lookup (List Ip)
  texts : String → Lookup (List String)
  exchangers : String → Lookup (List MxRecord)
  names : Ip → Lookup (List String)

namespace Resolver

/-- A resolver that fails every lookup. -/
def unavailable : Resolver where
  addresses name := .failed ("DNS is unavailable, cannot resolve " ++ name)
  texts name := .failed ("DNS is unavailable, cannot resolve TXT for " ++ name)
  exchangers name := .failed ("DNS is unavailable, cannot resolve MX for " ++ name)
  names ip := .failed ("DNS is unavailable, cannot resolve PTR for " ++ ip.render)

/-- A resolver that knows the names of some addresses and nothing else; no names stands for a lookup
that never ends. -/
def ofTable (table : List (Ip × Option (List String))) : Resolver :=
  { unavailable with
    names := fun ip =>
      match table.find? fun row => row.1 = ip with
      | some (_, some names) => .found names
      | some (_, none) => .pending
      | none => .failed ("no names for " ++ ip.render) }

end Resolver
end MailIntake
