import MailIntake.Proofs.Session.Exchange
import Mathlib.Data.List.Flatten
/-!
Whose aliases there are.  A stage writes down the transaction with which it began, so the journal
shows which aliases an exchange found, and what is there behind it and was not found was pushed
while it lasted.  An account of the aliases at hand goes back to the exchange that last left the
envelope empty.
-/
namespace MailIntake

universe u v

variable {W : Type u}

/-- What is left out of a concatenation without a difference is empty. -/
theorem flatMap_filter_eq_iff {A : Type u} {B : Type v} (p : A → Bool) (f : A → List B)
    (l : List A) :
    l.flatMap f = (l.filter p).flatMap f ↔ ∀ a ∈ l, p a = false → f a = [] := by
  induction l with
  | nil => simp
  | cons a l ih =>
      rw [List.forall_mem_cons, List.flatMap_cons]
      by_cases hp : p a
      · rw [List.filter_cons_of_pos hp, List.flatMap_cons, List.append_cancel_left_eq, ih]
        simp [hp]
      · rw [List.filter_cons_of_neg hp]
        -- What is left out can only have made the whole longer.
        have hless : ((l.filter p).flatMap f).length ≤ (l.flatMap f).length :=
          (List.filter_sublist.flatMap f).length_le
        constructor
        · intro hequal
          have hlength := congrArg List.length hequal
          rw [List.length_append] at hlength
          have hnil : f a = [] := List.length_eq_zero_iff.mp (by omega)
          rw [hnil, List.nil_append] at hequal
          exact ⟨fun _ => hnil, ih.mp hequal⟩
        · rintro ⟨hnil, hrest⟩
          rw [hnil (by simpa using hp), List.nil_append]
          exact ih.mpr hrest

/-- The aliases with which a stage began. -/
def Event.aliases? : Event → Option (List String)
  | .stage _ tx => some tx.envelope.aliases
  | _ => none

namespace Exchange

def empties (x : Exchange) : Bool :=
  x.accepted .helo || x.accepted .ehlo || x.asks .rset || x.answered .startTls 220 ||
    x.answered .data 354

/-- Whether an exchange gave the message at hand its sender or a recipient. -/
def joins (x : Exchange) : Bool :=
  x.accepted .mail || x.accepted .rcpt

def refused (x : Exchange) : Bool :=
  x.events.any Event.refuses

/-- The aliases that an exchange found, `now` being those that it left.  Where no stage ran they are
the same. -/
def found (now : List String) (x : Exchange) : List String :=
  (x.events.findSome? Event.aliases?).getD now

theorem empties_of_spares {x : Exchange} (hspares : x.Spares) : x.empties = false := by
  have hhelo : x.accepted .helo = false := hspares.greeting .smtp
  have hehlo : x.accepted .ehlo = false := hspares.greeting .esmtp
  simp [empties, hhelo, hehlo, hspares.reset, hspares.startTls, hspares.data]

/-- An exchange at whose beginning no stage ran. -/
theorem found_of_none {x : Exchange} (hevents : ∀ e ∈ x.events, e.aliases? = none)
    (now : List String) : x.found now = now := by
  rw [found, List.findSome?_eq_none_iff.mpr hevents, Option.getD_none]

end Exchange

/-- The exchanges since the envelope was last empty, the latest first. -/
def sinceEmptied (history : List Exchange) : List Exchange :=
  history.takeWhile fun x => !x.empties

/-- What was pushed in each exchange, the latest first, `now` being the aliases behind them. -/
def pushes : List String → List Exchange → List (Exchange × List String)
  | _, [] => []
  | now, x :: older => (x, now.drop (x.found now).length) :: pushes (x.found now) older

/-- The aliases that there were before all exchanges. -/
def ground : List String → List Exchange → List String
  | now, [] => now
  | now, x :: older => ground (x.found now) older

/-- The aliases that were pushed for senders and recipients who joined the message. -/
def ownAliases (now : List String) (history : List Exchange) : List String :=
  ((pushes now history).reverse.filter fun entry => entry.1.joins).flatMap Prod.snd

/-- In no exchange an alias was taken away. -/
def Grown : List String → List Exchange → Prop
  | _, [] => True
  | now, x :: older => x.found now <+: now ∧ Grown (x.found now) older

/-- Every alias is accounted for. -/
theorem Grown.eq_append {now : List String} {history : List Exchange} (hgrown : Grown now history) :
    now = ground now history ++ (pushes now history).reverse.flatMap Prod.snd := by
  induction history generalizing now with
  | nil => simp [ground, pushes]
  | cons x older ih =>
      obtain ⟨hextends, hrest⟩ := hgrown
      -- The latest exchange stands first, and what it pushed stands last.
      have hnow : now = x.found now ++ now.drop (x.found now).length :=
        List.prefix_iff_eq_append.mp hextends |>.symm
      calc now = x.found now ++ now.drop (x.found now).length := hnow
        _ = (ground (x.found now) older ++
              (pushes (x.found now) older).reverse.flatMap Prod.snd) ++
              now.drop (x.found now).length := by rw [← ih hrest]
        _ = _ := by simp [ground, pushes]

/-- All aliases are those of senders and recipients who joined if and only if nothing else has
pushed one. -/
theorem Grown.eq_ownAliases_iff {now : List String} {history : List Exchange}
    (hgrown : Grown now history) :
    now = ownAliases now history ↔
      ground now history = [] ∧ ∀ entry ∈ pushes now history, entry.1.joins = false →
        entry.2 = [] := by
  have hsum := hgrown.eq_append
  have hfilter := flatMap_filter_eq_iff (fun entry : Exchange × List String => entry.1.joins)
    Prod.snd (pushes now history).reverse
  rw [← ownAliases] at hfilter
  simp only [List.mem_reverse] at hfilter
  constructor
  · intro hown
    have hless : (ownAliases now history).length ≤
        ((pushes now history).reverse.flatMap Prod.snd).length :=
      (List.filter_sublist.flatMap Prod.snd).length_le
    have hlength := congrArg List.length hsum
    rw [List.length_append] at hlength
    have hground : ground now history = [] := by
      apply List.length_eq_zero_iff.mp
      rw [← hown] at hless
      omega
    rw [hground, List.nil_append] at hsum
    exact ⟨hground, hfilter.mp (hsum.symm.trans hown)⟩
  · rintro ⟨hground, hothers⟩
    rw [hground, List.nil_append] at hsum
    exact hsum.trans (hfilter.mpr hothers)

/-- An account of aliases: they have only grown since the envelope was empty, and where a stage ran
that pushed some, somebody joined the message or was refused.  What there was before all commands is
there as long as nothing has emptied the envelope, unless it was `quiet` until then. -/
structure Ledger (quiet : Prop) (now : List String) (history : List Exchange) : Prop where
  grown : Grown now (sinceEmptied history)
  emptied : quiet ∨ (∃ x ∈ history, x.empties) → ground now (sinceEmptied history) = []
  told : ∀ x ∈ sinceEmptied history, x.joins ∨ x.refused ∨ ∀ now, x.found now = now

/-- The exchanges that joined the message at hand are those that it is made of. -/
def Joined (begun : Bool) (history : List Exchange) : Prop :=
  (sinceEmptied history).filter Exchange.joins =
    if begun then
      (sinceMail history).filter (Exchange.accepted .rcpt) ++ (lastMail? history).toList
    else []

theorem mem_pushes {now : List String} {history : List Exchange} {entry : Exchange × List String}
    (hentry : entry ∈ pushes now history) : entry.1 ∈ history ∧
      ∃ behind : List String, entry.2 = behind.drop (entry.1.found behind).length := by
  induction history generalizing now with
  | nil => cases hentry
  | cons x older ih =>
      rcases List.mem_cons.mp hentry with rfl | hentry
      · exact ⟨List.mem_cons_self, now, rfl⟩
      · obtain ⟨hmem, hpushed⟩ := ih hentry
        exact ⟨List.mem_cons_of_mem x hmem, hpushed⟩

/-- Nobody joins who is refused. -/
theorem Exchange.joins_of_refused {x : Exchange} (hrefused : x.refused) : x.joins = false := by
  rw [refused] at hrefused
  simp [joins, accepted, hrefused]

/-- Where the aliases of a message come from.  The exchanges since the envelope was last empty in
which somebody joined are the one of its sender and those of its recipients; besides these only
exchanges that ended with a refusal pushed aliases; and all aliases are those of the sender and the
recipients if and only if no refused exchange pushed any and none was there before all commands. -/
structure Attributed (quiet : Prop) (now : List String) (history : List Exchange) : Prop where
  joined : (sinceEmptied history).filter Exchange.joins =
    (sinceMail history).filter (Exchange.accepted .rcpt) ++ (lastMail? history).toList
  total : now = ground now (sinceEmptied history) ++
    (pushes now (sinceEmptied history)).reverse.flatMap Prod.snd
  emptied : quiet ∨ (∃ x ∈ history, x.empties) → ground now (sinceEmptied history) = []
  told : ∀ entry ∈ pushes now (sinceEmptied history), entry.2 ≠ [] →
    entry.1.joins ∨ entry.1.refused
  own_iff : now = ownAliases now (sinceEmptied history) ↔
    ground now (sinceEmptied history) = [] ∧
      ∀ entry ∈ pushes now (sinceEmptied history), entry.1.refused → entry.2 = []

theorem Ledger.attributed {quiet : Prop} {now : List String} {history : List Exchange}
    (hledger : Ledger quiet now history) (hjoined : Joined true history) :
    Attributed quiet now history := by
  have htold : ∀ entry ∈ pushes now (sinceEmptied history), entry.2 ≠ [] →
      entry.1.joins ∨ entry.1.refused := by
    intro entry hentry hpushed
    obtain ⟨hmem, behind, hbehind⟩ := mem_pushes hentry
    rcases hledger.told entry.1 hmem with hjoins | hrefused | hfound
    · exact .inl hjoins
    · exact .inr hrefused
    · rw [hbehind, hfound, List.drop_length] at hpushed
      exact absurd rfl hpushed
  refine ⟨hjoined, hledger.grown.eq_append, hledger.emptied, htold, ?_⟩
  rw [hledger.grown.eq_ownAliases_iff]
  refine and_congr_right fun _ => ⟨?_, ?_⟩
  · intro hothers entry hentry hrefused
    exact hothers entry hentry (Exchange.joins_of_refused hrefused)
  · intro hrefusals entry hentry hjoins
    by_cases hpushed : entry.2 = []
    · exact hpushed
    · rcases htold entry hentry hpushed with hjoined | hrefused
      · rw [hjoins] at hjoined
        cases hjoined
      · exact hrefusals entry hentry hrefused

section History

variable {before after : List String} {history : List Exchange} {x : Exchange}

theorem sinceEmptied_of_empties (hempties : x.empties) : sinceEmptied (x :: history) = [] := by
  rw [sinceEmptied, List.takeWhile_cons_of_neg (by simpa using hempties)]

theorem sinceEmptied_cons (hempties : x.empties = false) :
    sinceEmptied (x :: history) = x :: sinceEmptied history := by
  rw [sinceEmptied, List.takeWhile_cons_of_pos (by simpa using hempties), ← sinceEmptied]

/-- Before the first command there is nothing to account for. -/
theorem Ledger.nil {quiet : Prop} {now : List String} (hquiet : quiet → now = []) :
    Ledger quiet now [] where
  grown := trivial
  emptied := by
    rintro (h | ⟨x, hx, -⟩)
    · exact hquiet h
    · cases hx
  told := by simp [sinceEmptied]

/-- An exchange that leaves the envelope empty begins a new account. -/
theorem Ledger.empty {quiet : Prop} (hempties : x.empties) : Ledger quiet [] (x :: history) where
  grown := by
    rw [sinceEmptied_of_empties hempties]
    trivial
  emptied _ := by
    rw [sinceEmptied_of_empties hempties]
    rfl
  told := by
    rw [sinceEmptied_of_empties hempties]
    exact List.forall_mem_nil _

/-- Any other exchange goes on with the account. -/
theorem Ledger.cons {quiet : Prop} (hledger : Ledger quiet before history)
    (hempties : x.empties = false) (hfound : x.found after = before) (hextends : before <+: after)
    (htold : x.joins ∨ x.refused ∨ ∀ now, x.found now = now) :
    Ledger quiet after (x :: history) := by
  constructor
  · rw [sinceEmptied_cons hempties]
    refine ⟨hfound ▸ hextends, ?_⟩
    rw [hfound]
    exact hledger.grown
  · rw [sinceEmptied_cons hempties, ground, hfound]
    rintro (hquiet | ⟨y, hy, hyempties⟩)
    · exact hledger.emptied (.inl hquiet)
    · rcases List.mem_cons.mp hy with rfl | hy
      · rw [hempties] at hyempties
        cases hyempties
      · exact hledger.emptied (.inr ⟨y, hy, hyempties⟩)
  · rw [sinceEmptied_cons hempties]
    exact List.forall_mem_cons.mpr ⟨htold, hledger.told⟩

theorem Joined.nil : Joined false [] := rfl

theorem Joined.empty (hempties : x.empties) : Joined false (x :: history) := by
  rw [Joined, sinceEmptied_of_empties hempties]
  rfl

/-- Nobody joins. -/
theorem Joined.stay {begun : Bool} (hjoined : Joined begun history)
    (hempties : x.empties = false) (hjoins : x.joins = false)
    (hmail : begun = true → x.answered .mail 250 = false) : Joined begun (x :: history) := by
  rw [Joined, sinceEmptied_cons hempties, List.filter_cons_of_neg (by simp [hjoins]), hjoined]
  cases begun with
  | false => rfl
  | true =>
      have hother : x.accepted .rcpt = false := by
        rw [Exchange.joins, Bool.or_eq_false_iff] at hjoins
        exact hjoins.2
      rw [sinceMail_cons_of_other (hmail rfl), lastMail?_cons_of_other (hmail rfl),
        List.filter_cons_of_neg (by simp [hother])]

/-- The sender joins. -/
theorem Joined.mail (hjoined : Joined false history) (hempties : x.empties = false)
    (haccepted : x.accepted .mail) : Joined true (x :: history) := by
  have hmail : x.answered .mail 250 := by
    rw [Exchange.accepted, Bool.and_eq_true] at haccepted
    exact haccepted.1
  have hjoins : x.joins := by simp [Exchange.joins, haccepted]
  rw [Joined, sinceEmptied_cons hempties, List.filter_cons_of_pos hjoins, hjoined,
    sinceMail_cons_of_mail hmail, lastMail?_cons_of_mail hmail]
  rfl

/-- A recipient joins. -/
theorem Joined.rcpt (hjoined : Joined true history) (hempties : x.empties = false)
    (haccepted : x.accepted .rcpt) (hmail : x.answered .mail 250 = false) :
    Joined true (x :: history) := by
  have hjoins : x.joins := by simp [Exchange.joins, haccepted]
  rw [Joined, sinceEmptied_cons hempties, List.filter_cons_of_pos hjoins, hjoined,
    sinceMail_cons_of_other hmail, lastMail?_cons_of_other hmail, if_pos rfl, if_pos rfl,
    List.filter_cons_of_pos haccepted, List.cons_append]

end History

namespace Turn

variable {service : Service W} {t after : Turn W} {line : CommandLine} {older : List Event}
  {x : Exchange}

/-- A command that is answered at once pushes nothing. -/
theorem found_of_reply {reply : Reply} (hjournal : t.journal = .command line :: older)
    (hexchanges : exchanges (.replied reply :: t.journal) = x :: exchanges older)
    (now : List String) : x.found now = now := by
  have hnewer : ∀ e ∈ [Event.replied reply], e.continues := by simp [Event.continues]
  have hshape := exchanges_command hnewer line older
  rw [hjournal] at hexchanges
  cases hexchanges.symm.trans hshape
  exact Exchange.found_of_none (by simp [Event.aliases?]) now

/-- A command that is answered behind a stage found what the stage began with. -/
theorem found_of_runStage {stage : Stage} {refusal : Option Refusal} {reply : Reply}
    (hjournal : t.journal = .command line :: older)
    (hrun : t.runStage service stage = (after, refusal))
    (hexchanges : exchanges (.replied reply :: after.journal) = x :: exchanges older)
    (now : List String) : x.found now = t.transaction.envelope.aliases := by
  obtain ⟨checks, hchecks, hafter⟩ := journal_of_runStage hrun
  have hnewer : ∀ e ∈ .replied reply :: (checks ++ [.stage stage t.transaction]),
      e.continues := by
    intro e he
    rcases List.mem_cons.mp he with rfl | he
    · rfl
    · rcases List.mem_append.mp he with hcheck | hstage
      · exact hchecks.continues hcheck
      · rw [List.mem_singleton.mp hstage]
        rfl
  have hshape := exchanges_command hnewer line older
  rw [hafter, hjournal] at hexchanges
  simp only [List.cons_append, List.append_assoc, List.nil_append] at hshape
  cases hexchanges.symm.trans hshape
  rw [Exchange.found, List.reverse_cons, List.reverse_append, List.reverse_singleton]
  rfl

end Turn
end MailIntake
