import MailIntake.Spool
import MailIntake.Stage
/-!
The checkers that come with the program: one puts a trace field on every message, one writes messages
into a spool, one takes note of connections that end, and one judges credentials by a table of
users.  They work on an office, which has a clock and perhaps a spool.
-/
namespace MailIntake

open Text

universe u v

/-- What the checkers that come with the program work on. -/
structure Office where
  now : Moment
  /-- Without a spool, messages are accepted and dropped. -/
  spool : Option Spool := none

namespace Checker

def pass {W : Type u} (tx : Transaction) (world : W) : Verdict W :=
  { transaction := tx, world }

/-- A checker at work on a part of a larger world. -/
def onPart {W : Type u} {V : Type v} (get : W → V) (put : V → W → W) (checker : Checker V) :
    Checker W := fun tx world =>
  let verdict := checker tx (get world)
  { transaction := verdict.transaction
    world := put verdict.world world
    refusal := verdict.refusal }

end Checker

namespace Office

/-- Puts the trace field on a message. -/
def stampReceived : Checker Office := fun tx office =>
  Checker.pass (tx.addReceivedLine office.now) office

def fileName (tx : Transaction) : String :=
  tx.shared.id.render ++ ".eml"

/-- What a client hears whose message could not be written. -/
def deliveryFailure : Rejection := ⟨451, "4.3.0 Temporary failure, try again later"⟩

/-- Writes a message into the spool. -/
def deliver : Checker Office := fun tx office =>
  match office.spool with
  | none => Checker.pass tx office
  | some spool =>
      match spool.write? (fileName tx) tx.envelope.body with
      | some spool => Checker.pass tx { office with spool := some spool }
      | none => { transaction := tx, world := office, refusal := some (.reject deliveryFailure) }

theorem deliver_transaction (tx : Transaction) (office : Office) :
    (deliver tx office).transaction = tx := by
  rw [deliver]
  split
  · rfl
  · split
    · rfl
    · rfl

/-- Takes note of the end of a connection, in a log that nobody here reads. -/
def logClose : Checker Office :=
  Checker.pass

end Office

/-- Passwords by user name. -/
abbrev Users := List (String × String)

namespace Users

/-- What a client hears whose credentials do not hold. -/
def mismatch : Rejection := ⟨535, "5.7.8 Authentication credentials invalid"⟩

/-- Compares two secrets without stopping at the first byte in which they differ. -/
def sameSecret (a b : String) : Bool :=
  let left := Utf8.encode a
  let right := Utf8.encode b
  left.length == right.length &&
    (left.zip right).foldl (fun found pair => found ||| (pair.1 ^^^ pair.2)) (0 : UInt8) == 0

def accepts (users : Users) (username password : String) : Bool :=
  match Store.look username users with
  | some expected => sameSecret expected password
  | none => false

def authenticator {W : Type u} (users : Users) : Authenticator W :=
  fun username password tx world =>
    { transaction := tx
      world
      refusal := if users.accepts username password then none else some (.reject mismatch) }

end Users
end MailIntake
