/-!
The metadata of a transaction: facts, flags and counters under keys of the checkers' choice, and
one ledger of karma.  A store is an association list without repeated keys; its laws are
`get?_insert_self` and `get?_insert_of_ne`.  Karma is read under a reserved counter key and cannot
be written through it.
-/
namespace MailIntake

universe u

/-- Values under text keys, in the order in which the keys were first written. -/
structure Store (A : Type u) where
  entries : List (String × A) := []
deriving DecidableEq, Repr

namespace Store

variable {A : Type u}

/-- The entries with the value of a key replaced, or with a new entry at the end. -/
def put (key : String) (value : A) : List (String × A) → List (String × A)
  | [] => [(key, value)]
  | entry :: rest => if entry.1 = key then (key, value) :: rest else entry :: put key value rest

/-- The value of the first entry with a key. -/
def look (key : String) : List (String × A) → Option A
  | [] => none
  | entry :: rest => if entry.1 = key then some entry.2 else look key rest

def get? (s : Store A) (key : String) : Option A :=
  look key s.entries

/-- Writes a value under a key. -/
def insert (s : Store A) (key : String) (value : A) : Store A :=
  ⟨put key value s.entries⟩

theorem look_put_self (key : String) (value : A) (entries : List (String × A)) :
    look key (put key value entries) = some value := by
  induction entries with
  | nil => simp [put, look]
  | cons entry rest ih =>
      by_cases hkey : entry.1 = key
      · simp [put, look, hkey]
      · simp [put, look, hkey, ih]

theorem look_put_of_ne {key other : String} (hne : other ≠ key) (value : A)
    (entries : List (String × A)) : look other (put key value entries) = look other entries := by
  induction entries with
  | nil => simp [put, look, Ne.symm hne]
  | cons entry rest ih =>
      by_cases hkey : entry.1 = key
      · simp [put, look, hkey, Ne.symm hne]
      · simp [put, look, hkey, ih]

@[simp]
theorem get?_insert_self (s : Store A) (key : String) (value : A) :
    (s.insert key value).get? key = some value :=
  look_put_self key value s.entries

theorem get?_insert_of_ne (s : Store A) {key other : String} (hne : other ≠ key) (value : A) :
    (s.insert key value).get? other = s.get? other :=
  look_put_of_ne hne value s.entries

end Store

/-- The counter key under which karma is read. -/
def karmaKey : String := "karma"

/-- What checkers and the session know about a transaction beside its protocol state. -/
structure Metadata where
  facts : Store String := {}
  counters : Store Float := {}
  flags : Store Bool := {}
  karma : Int := 0

namespace Metadata

def karmaValue (m : Metadata) : Float :=
  Float.ofInt m.karma

def setFact (m : Metadata) (key value : String) : Metadata :=
  { m with facts := m.facts.insert key value }

def fact? (m : Metadata) (key : String) : Option String :=
  m.facts.get? key

/-- Adds to a counter, which starts from zero.  The reserved key changes nothing. -/
def incrCounter (m : Metadata) (key : String) (delta : Float) : Metadata :=
  if key = karmaKey then m
  else { m with counters := m.counters.insert key ((m.counters.get? key).getD 0 + delta) }

/-- Sets a counter.  The reserved key changes nothing. -/
def setCounter (m : Metadata) (key : String) (value : Float) : Metadata :=
  if key = karmaKey then m else { m with counters := m.counters.insert key value }

/-- A counter; under the reserved key, karma. -/
def counter? (m : Metadata) (key : String) : Option Float :=
  if key = karmaKey then some m.karmaValue else m.counters.get? key

/-- All counters, karma among them. -/
def allCounters (m : Metadata) : Store Float :=
  m.counters.insert karmaKey m.karmaValue

def setFlag (m : Metadata) (key : String) : Metadata :=
  { m with flags := m.flags.insert key true }

/-- Unsets a flag, which stays known. -/
def unsetFlag (m : Metadata) (key : String) : Metadata :=
  { m with flags := m.flags.insert key false }

def isFlagSet (m : Metadata) (key : String) : Bool :=
  (m.flags.get? key).getD false

def reward (m : Metadata) (amount : Int) : Metadata :=
  { m with karma := m.karma + amount }

def penalize (m : Metadata) (amount : Int) : Metadata :=
  { m with karma := m.karma - amount }

theorem counter?_allCounters (m : Metadata) (key : String) :
    m.allCounters.get? key = m.counter? key := by
  by_cases hkey : key = karmaKey
  · subst hkey
    simp [allCounters, counter?]
  · rw [allCounters, Store.get?_insert_of_ne _ hkey, counter?, if_neg hkey]

end Metadata
end MailIntake
