import Mathlib.Algebra.Ring.Int.Defs
import MailIntake.Transaction
/-!
What the holders of a transaction are told.  All of them share its metadata, so their calls come one
after another, whoever makes them, and go on when the transaction has ended.  Here the answers are
read off the calls that have been made, with no store in sight: what was last written under a key,
the sum of all rewards and penalties, and whether the transaction has ended.  Every call is answered
so (`answer_last_written`), because what a run leaves in the stores is what the calls say
(`Remembers.run`).
-/
namespace MailIntake

universe u

namespace Store

variable {A : Type u}

theorem mem_put {key : String} {value : A} {entries : List (String × A)} {entry : String × A}
    (hentry : entry ∈ put key value entries) : entry = (key, value) ∨ entry ∈ entries := by
  induction entries with
  | nil => exact .inl (List.mem_singleton.mp hentry)
  | cons first rest ih =>
      rw [put] at hentry
      split at hentry
      · exact (List.mem_cons.mp hentry).imp_right (List.mem_cons_of_mem first)
      · rcases List.mem_cons.mp hentry with rfl | hrest
        · exact .inr List.mem_cons_self
        · exact (ih hrest).imp_right (List.mem_cons_of_mem first)

theorem get?_insert (s : Store A) (key other : String) (value : A) :
    (s.insert key value).get? other = if key = other then some value else s.get? other := by
  by_cases hkey : key = other
  · rw [if_pos hkey, hkey, get?_insert_self]
  · rw [if_neg hkey, get?_insert_of_ne s (Ne.symm hkey)]

end Store

namespace Metadata

variable (m : Metadata) (key : String) (value delta : Float)

/-- To add to a counter is to set it. -/
theorem incrCounter_eq :
    m.incrCounter key delta = m.setCounter key ((m.counters.get? key).getD 0 + delta) := rfl

@[simp]
theorem facts_setCounter : (m.setCounter key value).facts = m.facts := by
  rw [setCounter]
  split <;> rfl

@[simp]
theorem flags_setCounter : (m.setCounter key value).flags = m.flags := by
  rw [setCounter]
  split <;> rfl

@[simp]
theorem karma_setCounter : (m.setCounter key value).karma = m.karma := by
  rw [setCounter]
  split <;> rfl

theorem counters_setCounter {other : String} (hother : other ≠ karmaKey) :
    (m.setCounter key value).counters.get? other =
      if key = other then some value else m.counters.get? other := by
  rw [setCounter]
  by_cases hkey : key = karmaKey
  · rw [if_pos hkey, if_neg (by rw [hkey]; exact Ne.symm hother)]
  · rw [if_neg hkey, Store.get?_insert]

/-- Nothing is stored under the reserved key. -/
def Unreserved : Prop :=
  ∀ entry ∈ m.counters.entries, entry.1 ≠ karmaKey

variable {m}

theorem Unreserved.setCounter (hm : m.Unreserved) : (m.setCounter key value).Unreserved := by
  rw [Metadata.setCounter]
  split
  · exact hm
  · next hkey =>
      intro entry hentry
      rcases Store.mem_put hentry with rfl | hold
      · exact hkey
      · exact hm entry hold

end Metadata

namespace Held

/-- What a holder of a transaction can call for, and the end of the transaction. -/
inductive Call
  | setFact (key value : String)
  | fact? (key : String)
  | allFacts
  | incrCounter (key : String) (delta : Float)
  | setCounter (key : String) (value : Float)
  | counter? (key : String)
  | allCounters
  | setFlag (key : String)
  | unsetFlag (key : String)
  | isFlagSet (key : String)
  | allFlags
  | karma
  | reward (amount : Int)
  | penalize (amount : Int)
  | isCancelled
  | drop
deriving Repr

inductive Answer
  | done
  | fact (value : Option String)
  | facts (store : Store String)
  | counter (value : Option Float)
  | counters (store : Store Float)
  | flag (isSet : Bool)
  | flags (store : Store Bool)
  | karma (total : Int)
  | cancelled (isCancelled : Bool)

def Call.change : Call → Metadata → Metadata
  | .setFact key value, m => m.setFact key value
  | .incrCounter key delta, m => m.incrCounter key delta
  | .setCounter key value, m => m.setCounter key value
  | .setFlag key, m => m.setFlag key
  | .unsetFlag key, m => m.unsetFlag key
  | .reward amount, m => m.reward amount
  | .penalize amount, m => m.penalize amount
  | .fact? _, m | .allFacts, m | .counter? _, m | .allCounters, m | .isFlagSet _, m | .allFlags, m
  | .karma, m | .isCancelled, m | .drop, m => m

def after (h : Held) (c : Call) : Held :=
  match c with
  | .drop => h.drop
  | c => h.mapMetadata c.change

def run (h : Held) (calls : List Call) : Held :=
  calls.foldl after h

def answer (h : Held) (c : Call) : Answer :=
  let shared := (h.after c).shared
  match c with
  | .fact? key => .fact (shared.metadata.fact? key)
  | .allFacts => .facts shared.metadata.facts
  | .incrCounter key _ | .counter? key => .counter (shared.metadata.counter? key)
  | .allCounters => .counters shared.metadata.allCounters
  | .isFlagSet key => .flag (shared.metadata.isFlagSet key)
  | .allFlags => .flags shared.metadata.flags
  | .karma | .reward _ | .penalize _ => .karma shared.metadata.karma
  | .isCancelled => .cancelled shared.cancelled
  | .setFact .. | .setCounter .. | .setFlag _ | .unsetFlag _ | .drop => .done

/-! What calls say, one kind at a time. -/

def Call.fact (key : String) : Call → Option String
  | .setFact written value => if written = key then some value else none
  | _ => none

def Call.flag (key : String) : Call → Option Bool
  | .setFlag written => if written = key then some true else none
  | .unsetFlag written => if written = key then some false else none
  | _ => none

def Call.count (key : String) : Call → Option (Option Float → Float)
  | .setCounter written value => if written = key then some fun _ => value else none
  | .incrCounter written delta =>
      if written = key then some fun value => value.getD 0 + delta else none
  | _ => none

def Call.given : Call → Option Int
  | .reward amount => some amount
  | _ => none

def Call.taken : Call → Option Int
  | .penalize amount => some amount
  | _ => none

def lastFact (calls : List Call) (key : String) : Option String :=
  (calls.filterMap (Call.fact key)).getLast?

def lastFlag (calls : List Call) (key : String) : Option Bool :=
  (calls.filterMap (Call.flag key)).getLast?

/-- What all that was done to a counter makes of it. -/
def lastCount (calls : List Call) (key : String) : Option Float :=
  (calls.filterMap (Call.count key)).foldl (fun value write => some (write value)) none

/-- All that was given less all that was taken. -/
def ledger (calls : List Call) : Int :=
  (calls.filterMap Call.given).sum - (calls.filterMap Call.taken).sum

/-- A counter as calls leave it; under the reserved key, the ledger. -/
def reported (calls : List Call) (key : String) : Option Float :=
  if key = karmaKey then some (Float.ofInt (ledger calls)) else lastCount calls key

/-- What the last of these calls has to be answered. -/
def Tells (calls : List Call) : Call → Answer → Prop
  | .fact? key, a => a = .fact (lastFact calls key)
  | .allFacts, a => ∃ store, a = .facts store ∧ ∀ key, store.get? key = lastFact calls key
  | .incrCounter key _, a | .counter? key, a => a = .counter (reported calls key)
  | .allCounters, a => ∃ store, a = .counters store ∧ ∀ key, store.get? key = reported calls key
  | .isFlagSet key, a => a = .flag ((lastFlag calls key).getD false)
  | .allFlags, a => ∃ store, a = .flags store ∧ ∀ key, store.get? key = lastFlag calls key
  | .karma, a | .reward _, a | .penalize _, a => a = .karma (ledger calls)
  | .isCancelled, a => ∃ ended, a = .cancelled ended ∧ (ended = true ↔ .drop ∈ calls)
  | .setFact .., a | .setCounter .., a | .setFlag _, a | .unsetFlag _, a | .drop, a => a = .done

section Changes

variable (c : Call) (m : Metadata) (key : String)

theorem facts_change : (c.change m).facts.get? key = (c.fact key).or (m.facts.get? key) := by
  cases c with
  | setFact written value =>
      simp only [Call.change, Metadata.setFact, Store.get?_insert, Call.fact]
      split <;> rfl
  | incrCounter written delta | setCounter written value =>
      simp [Call.change, Metadata.incrCounter_eq, Call.fact]
  | _ => rfl

theorem flags_change : (c.change m).flags.get? key = (c.flag key).or (m.flags.get? key) := by
  cases c with
  | setFlag written | unsetFlag written =>
      simp only [Call.change, Metadata.setFlag, Metadata.unsetFlag, Store.get?_insert, Call.flag]
      split <;> rfl
  | incrCounter written delta | setCounter written value =>
      simp [Call.change, Metadata.incrCounter_eq, Call.flag]
  | _ => rfl

theorem counters_change (hkey : key ≠ karmaKey) :
    (c.change m).counters.get? key =
      ((c.count key).map (· (m.counters.get? key))).or (m.counters.get? key) := by
  cases c with
  | incrCounter written delta | setCounter written value =>
      simp only [Call.change, Metadata.incrCounter_eq, m.counters_setCounter written _ hkey,
        Call.count]
      by_cases hwritten : written = key
      · simp [hwritten]
      · simp [hwritten]
  | _ => rfl

theorem karma_change : (c.change m).karma = m.karma + c.given.getD 0 - c.taken.getD 0 := by
  cases c with
  | reward amount => simp [Call.change, Metadata.reward, Call.given, Call.taken]
  | penalize amount => simp [Call.change, Metadata.penalize, Call.given, Call.taken]
  | _ =>
      simp [Call.change, Metadata.setFact, Metadata.setFlag, Metadata.unsetFlag,
        Metadata.incrCounter_eq, Call.given, Call.taken]

variable {m} in
theorem unreserved_change (hm : m.Unreserved) : (c.change m).Unreserved := by
  cases c with
  | incrCounter written delta | setCounter written value =>
      exact Metadata.Unreserved.setCounter _ _ hm
  | _ => exact hm

/-- To the metadata, the end of a transaction is nothing. -/
theorem metadata_after (h : Held) : (h.after c).shared.metadata = c.change h.shared.metadata := by
  cases c with
  | drop => cases h <;> rfl
  | _ => cases h <;> rfl

end Changes

section Concat

variable (calls : List Call) (c : Call) (key : String)

theorem getLast?_filterMap_concat {A : Type} (f : Call → Option A) :
    ((calls ++ [c]).filterMap f).getLast? = (f c).or (calls.filterMap f).getLast? := by
  rw [List.filterMap_append, List.getLast?_append]
  cases hc : f c <;> simp [hc]

theorem lastFact_concat : lastFact (calls ++ [c]) key = (c.fact key).or (lastFact calls key) :=
  getLast?_filterMap_concat calls c _

theorem lastFlag_concat : lastFlag (calls ++ [c]) key = (c.flag key).or (lastFlag calls key) :=
  getLast?_filterMap_concat calls c _

theorem lastCount_concat :
    lastCount (calls ++ [c]) key =
      ((c.count key).map (· (lastCount calls key))).or (lastCount calls key) := by
  rw [lastCount, List.filterMap_append, List.foldl_append, lastCount]
  cases hc : c.count key <;> simp [hc]

theorem ledger_concat :
    ledger (calls ++ [c]) = ledger calls + c.given.getD 0 - c.taken.getD 0 := by
  rw [ledger, List.filterMap_append, List.filterMap_append, List.sum_append, List.sum_append,
    ledger]
  have hgiven : ([c].filterMap Call.given).sum = c.given.getD 0 := by
    cases hc : c.given <;> simp [hc]
  have htaken : ([c].filterMap Call.taken).sum = c.taken.getD 0 := by
    cases hc : c.taken <;> simp [hc]
  omega

end Concat

/-- What is held is what these calls have made of a new transaction. -/
structure Remembers (calls : List Call) (h : Held) : Prop where
  facts : ∀ key, h.shared.metadata.facts.get? key = lastFact calls key
  flags : ∀ key, h.shared.metadata.flags.get? key = lastFlag calls key
  counters : ∀ key, key ≠ karmaKey → h.shared.metadata.counters.get? key = lastCount calls key
  unreserved : h.shared.metadata.Unreserved
  karma : h.shared.metadata.karma = ledger calls
  cancelled : h.shared.cancelled = true ↔ .drop ∈ calls
  gone : ∀ shared, h = .gone shared → shared.cancelled = true

variable {calls : List Call} {h : Held}

theorem Remembers.cancelled_after (hremembers : Remembers calls h) (c : Call) :
    (h.after c).shared.cancelled = true ↔ .drop ∈ calls ++ [c] := by
  rw [List.mem_append, List.mem_singleton, ← hremembers.cancelled]
  cases c with
  | drop =>
      cases h with
      | alive tx => simp [after, Held.drop, shared, Transaction.finish]
      | gone s => simp [after, Held.drop, shared, hremembers.gone s rfl]
  | _ => cases h <;> simp [after, mapMetadata, shared, Transaction.withMetadata]

theorem Remembers.gone_after (hremembers : Remembers calls h) (c : Call) (s : Shared)
    (hgone : h.after c = .gone s) : s.cancelled = true := by
  cases c with
  | drop =>
      cases h with
      | alive tx => cases hgone; rfl
      | gone s => cases hgone; exact hremembers.gone s rfl
  | _ =>
      cases h with
      | alive tx => cases hgone
      | gone s => cases hgone; exact hremembers.gone s rfl

/-- What one call leaves is remembered with the call. -/
theorem Remembers.after (hremembers : Remembers calls h) (c : Call) :
    Remembers (calls ++ [c]) (h.after c) where
  facts key := by rw [metadata_after, facts_change, lastFact_concat, hremembers.facts]
  flags key := by rw [metadata_after, flags_change, lastFlag_concat, hremembers.flags]
  counters key hkey := by
    rw [metadata_after, counters_change c _ key hkey, lastCount_concat,
      hremembers.counters key hkey]
  unreserved := by
    rw [metadata_after]
    exact unreserved_change c hremembers.unreserved
  karma := by rw [metadata_after, karma_change, ledger_concat, hremembers.karma]
  cancelled := hremembers.cancelled_after c
  gone := hremembers.gone_after c

theorem remembers_start (id : TransactionId) (hostname : String)
    (localAddr remoteAddr : Address.Endpoint) :
    Remembers [] (.alive (.start id hostname localAddr remoteAddr)) where
  facts _ := rfl
  flags _ := rfl
  counters _ _ := rfl
  unreserved := List.forall_mem_nil _
  karma := rfl
  cancelled := by simp [shared, Transaction.start]
  gone _ hgone := nomatch hgone

/-- What calls leave is what they say. -/
theorem Remembers.run {past : List Call} (hremembers : Remembers past h) (calls : List Call) :
    Remembers (past ++ calls) (h.run calls) := by
  induction calls generalizing past h with
  | nil =>
      rw [List.append_nil]
      exact hremembers
  | cons c more ih =>
      have hmore := ih (hremembers.after c)
      rwa [List.append_assoc] at hmore

theorem Remembers.counter? (hremembers : Remembers calls h) (key : String) :
    h.shared.metadata.counter? key = reported calls key := by
  rw [Metadata.counter?, reported, Metadata.karmaValue, hremembers.karma]
  split
  · rfl
  · next hkey => exact hremembers.counters key hkey

/-- The answer to a call is read off what it leaves. -/
theorem Remembers.tells (hremembers : Remembers calls h) (c : Call) :
    Tells (calls ++ [c]) c (h.answer c) := by
  have hafter := hremembers.after c
  cases c with
  | fact? key => exact congrArg Answer.fact (hafter.facts key)
  | allFacts => exact ⟨_, rfl, hafter.facts⟩
  | incrCounter key delta => exact congrArg Answer.counter (hafter.counter? key)
  | counter? key => exact congrArg Answer.counter (hafter.counter? key)
  | allCounters =>
      refine ⟨_, rfl, fun key => ?_⟩
      rw [Metadata.counter?_allCounters]
      exact hafter.counter? key
  | isFlagSet key => exact congrArg (fun value => Answer.flag (value.getD false)) (hafter.flags key)
  | allFlags => exact ⟨_, rfl, hafter.flags⟩
  | karma | reward amount | penalize amount => exact congrArg Answer.karma hafter.karma
  | isCancelled => exact ⟨_, rfl, hafter.cancelled⟩
  | setFact | setCounter | setFlag | unsetFlag | drop => rfl

/-- Whoever holds a new transaction, before its end and after it: each call is answered by what the
calls up to it say, and nothing is ever stored under the reserved key. -/
theorem answer_last_written (id : TransactionId) (hostname : String)
    (localAddr remoteAddr : Address.Endpoint) (past : List Call) (c : Call) :
    let held := (alive (.start id hostname localAddr remoteAddr)).run past
    Tells (past ++ [c]) c (held.answer c) ∧ held.shared.metadata.Unreserved := by
  intro held
  have hremembers := (remembers_start id hostname localAddr remoteAddr).run past
  exact ⟨hremembers.tells c, hremembers.unreserved⟩

end Held
end MailIntake
