import MailIntake.Proofs.Server.Change
import MailIntake.Proofs.Session.Admission
import MailIntake.Proofs.Session.Delivery
import Mathlib.Data.List.Induction
import Mathlib.Data.List.Nodup
/-!
A spool behind any number of connections.  Each connection has one file, which holds the message
that it delivered last, so that messages and files go together if and only if no connection
delivers a second message (`run_keepsMail_iff`).
-/
namespace MailIntake

universe u

variable {W : Type u}

section Store

variable {files : Store (List UInt8)} {name : String}

theorem Store.length_put {A : Type u} (key : String) (value : A) (entries : List (String × A)) :
    (put key value entries).length =
      if (look key entries).isSome then entries.length else entries.length + 1 := by
  induction entries with
  | nil => rfl
  | cons entry rest ih =>
      by_cases hkey : entry.1 = key
      · simp [put, look, hkey]
      · simp only [put, look, if_neg hkey, List.length_cons, ih]
        split
        · rfl
        · rfl

theorem get?_written_of_ne {messages : List Transaction}
    (hname : ∀ tx ∈ messages, Office.fileName tx ≠ name) :
    (written messages files).get? name = files.get? name := by
  induction messages with
  | nil => rfl
  | cons tx messages ih =>
      have htx : name ≠ Office.fileName tx := (hname tx List.mem_cons_self).symm
      rw [← ih fun other hmem => hname other (List.mem_cons_of_mem tx hmem)]
      exact Store.get?_insert_of_ne _ htx _

/-- Of messages that are written under one name the latest stays. -/
theorem get?_written {messages : List Transaction}
    (hname : ∀ tx ∈ messages, Office.fileName tx = name) :
    (written messages files).get? name =
      (messages.head?.map (·.envelope.body)).or (files.get? name) := by
  cases messages with
  | nil => rfl
  | cons tx messages =>
      rw [← hname tx List.mem_cons_self]
      exact Store.get?_insert_self _ _ _

/-- Messages that are written under one name make one file. -/
theorem length_written {messages : List Transaction}
    (hname : ∀ tx ∈ messages, Office.fileName tx = name) :
    (written messages files).entries.length =
      if messages = [] ∨ (files.get? name).isSome then files.entries.length
      else files.entries.length + 1 := by
  induction messages with
  | nil => rfl
  | cons tx messages ih =>
      have hrest : ∀ other ∈ messages, Office.fileName other = name :=
        fun other hmem => hname other (List.mem_cons_of_mem tx hmem)
      have hinsert : (written (tx :: messages) files).entries.length =
          if ((written messages files).get? name).isSome then
            (written messages files).entries.length
          else (written messages files).entries.length + 1 := by
        rw [← hname tx List.mem_cons_self]
        exact Store.length_put _ _ _
      rw [hinsert, ih hrest, get?_written hrest]
      cases messages with
      | nil => simp
      | cons other messages => simp

end Store

namespace Session

/-- The identifier of a connection. -/
def id (s : Session) : TransactionId :=
  s.transaction.shared.id

def fileName (s : Session) : String :=
  Office.fileName s.transaction

/-- The messages that a connection delivered, the latest first. -/
def delivered (s : Session) : List Transaction :=
  takenOver s.journal

theorem nodup_fileName {sessions : List Session} (hdistinct : (sessions.map id).Nodup) :
    (sessions.map fileName).Nodup := by
  rw [List.nodup_map_iff_inj_on hdistinct.of_map]
  intro x hx y hy hname
  exact List.inj_on_of_nodup_map hdistinct hx hy (Office.fileName_eq_iff.mp hname)

end Session

/-- How the files of a directory stand to connections that started with the given files: each
connection has the message that it delivered last in a file of its own, and there is no other new
file. -/
structure Filed (files stored : Store (List UInt8)) (sessions : List Session) : Prop where
  latest : ∀ session ∈ sessions,
    stored.get? session.fileName = session.delivered.head?.map (·.envelope.body)
  others : ∀ name, (∀ session ∈ sessions, session.fileName ≠ name) →
    stored.get? name = files.get? name
  size : stored.entries.length =
    files.entries.length + sessions.countP fun session => ¬ session.delivered = []

/-- Connections write under names of their own, which are new to a directory. -/
structure Apart (files : Store (List UInt8)) (sessions : List Session) : Prop where
  nodup : (sessions.map Session.fileName).Nodup
  fresh : ∀ session ∈ sessions, files.get? session.fileName = none

variable {files stored : Store (List UInt8)} {front back : List Session}

theorem Apart.of_append (hapart : Apart files (front ++ back)) : Apart files front := by
  refine ⟨?_, fun session hmem => hapart.fresh session (List.mem_append_left back hmem)⟩
  have hnodup := hapart.nodup
  rw [List.map_append] at hnodup
  exact hnodup.of_append_left

theorem Apart.congr {session other : Session} (hname : other.fileName = session.fileName)
    (hapart : Apart files (front ++ session :: back)) :
    Apart files (front ++ other :: back) := by
  constructor
  · have hnodup := hapart.nodup
    rw [List.map_append, List.map_cons] at hnodup ⊢
    rw [hname]
    exact hnodup
  · intro x hx
    rcases List.mem_append.mp hx with hfront | hback
    · exact hapart.fresh x (List.mem_append_left _ hfront)
    · rcases List.mem_cons.mp hback with rfl | hback
      · rw [hname]
        exact hapart.fresh session (by simp)
      · exact hapart.fresh x (by simp [hback])

/-- A connection that has delivered nothing joins. -/
theorem Filed.concat {session : Session} (hfiled : Filed files stored front)
    (hapart : Apart files (front ++ [session])) (hnone : session.delivered = []) :
    Filed files stored (front ++ [session]) := by
  have hname : ∀ x ∈ front, x.fileName ≠ session.fileName := by
    have hnodup := hapart.nodup
    rw [List.map_append, List.nodup_append] at hnodup
    intro x hx
    exact hnodup.2.2 _ (List.mem_map_of_mem hx) _ (by simp)
  constructor
  · intro x hx
    rcases List.mem_append.mp hx with hfront | hlast
    · exact hfiled.latest x hfront
    · rw [List.mem_singleton.mp hlast, hnone, hfiled.others _ hname]
      exact hapart.fresh session (by simp)
  · intro name hother
    exact hfiled.others name fun x hx => hother x (List.mem_append_left _ hx)
  · rw [hfiled.size]
    simp [hnone]

/-- One of the connections delivers messages. -/
theorem Filed.advance {session after : Session} {newer : List Transaction}
    (hfiled : Filed files stored (front ++ session :: back))
    (hapart : Apart files (front ++ session :: back))
    (hname : after.fileName = session.fileName)
    (hown : ∀ tx ∈ newer, Office.fileName tx = session.fileName)
    (hdelivered : after.delivered = newer ++ session.delivered) :
    Filed files (written newer stored) (front ++ after :: back) := by
  have hlatest := hfiled.latest session (by simp)
  have hrest : ∀ x ∈ front ++ back, x.fileName ≠ session.fileName := by
    have hnodup := hapart.nodup
    rw [List.map_append, List.map_cons, List.nodup_middle, ← List.map_append,
      List.nodup_cons] at hnodup
    intro x hx hsame
    exact hnodup.1 (hsame ▸ List.mem_map_of_mem hx)
  constructor
  · intro x hx
    by_cases hmem : x ∈ front ++ back
    · have hother : ∀ tx ∈ newer, Office.fileName tx ≠ x.fileName := by
        intro tx htx hsame
        exact hrest x hmem (hsame.symm.trans (hown tx htx))
      rw [get?_written_of_ne hother]
      refine hfiled.latest x ?_
      rcases List.mem_append.mp hmem with hfront | hback
      · exact List.mem_append_left _ hfront
      · exact List.mem_append_right _ (List.mem_cons_of_mem _ hback)
    · have hx : x = after := by
        simp only [List.mem_append, List.mem_cons, not_or] at hx hmem
        tauto
      rw [hx, hname, get?_written hown, hlatest, hdelivered, List.head?_append, Option.map_or]
  · intro name hother
    have hsession : session.fileName ≠ name := hname ▸ hother after (by simp)
    rw [get?_written_of_ne fun tx htx => (hown tx htx).trans_ne hsession]
    refine hfiled.others name ?_
    intro x hx
    rcases List.mem_append.mp hx with hfront | hback
    · exact hother x (List.mem_append_left _ hfront)
    · rcases List.mem_cons.mp hback with rfl | hback
      · exact hsession
      · exact hother x (List.mem_append_right _ (List.mem_cons_of_mem _ hback))
  · rw [length_written hown, hlatest, hfiled.size]
    simp only [List.countP_append, List.countP_cons, hdelivered]
    cases newer with
    | nil => simp
    | cons tx newer =>
        cases session.delivered with
        | nil => simp; omega
        | cons other older => simp

namespace Turn

variable {service : Service W} {get : W → Office} {put : Office → W → W}

/-- A connection that has just been admitted has delivered nothing. -/
theorem start_delivers (hspools : service.Spools get put) (tx : Transaction) (world : W) :
    takenOver (start service tx world).journal = [] ∧
      (start service tx world).tally.messages = 0 ∧
        (get (start service tx world).world).spool = (get world).spool := by
  have haspect := aspect_start Reading.takenOver (spoolView get) (.inr rfl) hspools.beside tx world
  simp only [aspect, spoolView, Prod.mk.injEq] at haspect
  obtain ⟨htaken, ⟨-, hspool⟩, hmessages⟩ := haspect
  exact ⟨htaken, hmessages, hspool⟩

end Turn

namespace Server

variable {service : Service W} {get : W → Office} {put : Office → W → W} {s after : Server W}

/-- The count of messages is the number of messages that were delivered. -/
structure Counted (s : Server W) : Prop where
  tally : ∀ session ∈ s.sessions, session.tally.messages = session.delivered.length
  total : s.counters.messages = (s.sessions.flatMap Session.delivered).length

theorem Change.counted (hspools : s.service.Spools get put) (hchange : Change s after)
    (hcounted : Counted s) : Counted after := by
  cases hchange with
  | elsewhere hsessions hworld hmessages =>
      refine ⟨?_, ?_⟩
      · rw [hsessions]
        exact hcounted.tally
      · rw [hmessages, hsessions]
        exact hcounted.total
  | admitted id localAddr remoteAddr t hstart hsessions hworld hmessages =>
      obtain ⟨htaken, hnone, -⟩ := Turn.start_delivers hspools
        (.start id s.service.hostname localAddr remoteAddr) s.world
      rw [← hstart] at htaken hnone
      have hdelivered : t.toSession.delivered = [] := htaken
      refine ⟨?_, ?_⟩
      · rw [hsessions]
        intro session hmem
        rcases List.mem_append.mp hmem with hold | hnew
        · exact hcounted.tally session hold
        · rw [List.mem_singleton.mp hnew, hdelivered]
          exact hnone
      · rw [hmessages, hnone, hsessions, hcounted.total]
        simp [hdelivered]
  | advanced front back session input t hbefore hstep hsessions hworld hmessages =>
      obtain ⟨newer, hdelivers⟩ := Turn.run_delivers hspools
        ({ session with world := s.world } : Turn W) [input]
      have ht : Turn.Delivers get { session with world := s.world } t newer := hstep ▸ hdelivers
      have hsession : session.tally.messages = session.delivered.length :=
        hcounted.tally session (by simp [hbefore])
      have hdelivered : t.toSession.delivered = newer ++ session.delivered := ht.taken
      have htally : t.tally.messages = session.tally.messages + newer.length := ht.messages
      refine ⟨?_, ?_⟩
      · rw [hsessions]
        intro x hx
        have htotal := hcounted.tally x
        rw [hbefore] at htotal
        simp only [List.mem_append, List.mem_cons] at hx htotal
        rcases hx with hfront | rfl | hback
        · exact htotal (.inl hfront)
        · rw [hdelivered, List.length_append, ← hsession, Nat.add_comm]
          exact htally
        · exact htotal (.inr (.inr hback))
      · rw [hmessages, hsessions, hcounted.total, hbefore, htally]
        simp [hdelivered]
        omega

/-- A spool directory that is filled by the connections of a server. -/
def Fills (get : W → Office) (files : Store (List UInt8)) (s : Server W) : Prop :=
  ∃ stored, (get s.world).spool = some (.directory stored) ∧ Filed files stored s.sessions

theorem Change.fills (hspools : s.service.Spools get put) (hchange : Change s after)
    (hapart : Apart files after.sessions)
    (hfills : Apart files s.sessions → Fills get files s) : Fills get files after := by
  cases hchange with
  | elsewhere hsessions hworld hmessages =>
      rw [Fills, hsessions, hworld]
      exact hfills (hsessions ▸ hapart)
  | admitted id localAddr remoteAddr t hstart hsessions hworld hmessages =>
      obtain ⟨htaken, -, hsame⟩ := Turn.start_delivers hspools
        (.start id s.service.hostname localAddr remoteAddr) s.world
      rw [← hstart] at htaken hsame
      rw [hsessions] at hapart
      obtain ⟨stored, hspool, hfiled⟩ := hfills hapart.of_append
      refine ⟨stored, ?_, ?_⟩
      · rw [hworld, hsame, hspool]
      · rw [hsessions]
        exact hfiled.concat hapart htaken
  | advanced front back session input t hbefore hstep hsessions hworld hmessages =>
      obtain ⟨newer, hdelivers⟩ := Turn.run_delivers hspools
        ({ session with world := s.world } : Turn W) [input]
      have ht : Turn.Delivers get { session with world := s.world } t newer := hstep ▸ hdelivers
      have hname : t.toSession.fileName = session.fileName := Office.fileName_eq_iff.mpr ht.id
      rw [hsessions] at hapart
      have hearlier : Apart files (front ++ session :: back) := hapart.congr hname.symm
      obtain ⟨stored, hspool, hfiled⟩ := hfills (hbefore ▸ hearlier)
      refine ⟨written newer stored, ?_, ?_⟩
      · rw [hworld]
        exact ht.spool stored hspool
      · rw [hsessions]
        rw [hbefore] at hfiled
        refine hfiled.advance hearlier hname ?_ ht.taken
        intro tx htx
        exact Office.fileName_eq_iff.mpr (ht.own tx htx)

theorem start_counted (service : Service W) (world : W) : Counted (start service world) :=
  ⟨List.forall_mem_nil _, rfl⟩

theorem run_counted (hspools : service.Spools get put) (world : W) (inputs : List ServerInput) :
    Counted ((start service world).run inputs) := by
  induction inputs using List.reverseRecOn with
  | nil => exact start_counted service world
  | append_singleton inputs input ih =>
      rw [run_concat]
      have hsame : ((start service world).run inputs).service.Spools get put := by
        rw [run_service]
        exact hspools
      exact (step_change _ input).counted hsame ih

theorem run_fills (hspools : service.Spools get put) (world : W)
    (hspool : (get world).spool = some (.directory files)) (inputs : List ServerInput)
    (hapart : Apart files ((start service world).run inputs).sessions) :
    Fills get files ((start service world).run inputs) := by
  -- The last input is split off: what is apart behind it was apart before.
  induction inputs using List.reverseRecOn with
  | nil => exact ⟨files, hspool, List.forall_mem_nil _, fun _ _ => rfl, rfl⟩
  | append_singleton inputs input ih =>
      rw [run_concat] at hapart ⊢
      have hsame : ((start service world).run inputs).service.Spools get put := by
        rw [run_service]
        exact hspools
      exact (step_change _ input).fills hsame hapart ih

/-- No message is lost: for each message that was counted as accepted the directory has one file
more than in the beginning, and each message that was delivered lies in one of them as it was. -/
def KeepsMail (get : W → Office) (files : Store (List UInt8)) (s : Server W) : Prop :=
  ∃ stored, (get s.world).spool = some (.directory stored) ∧
    stored.entries.length = files.entries.length + s.counters.messages ∧
      ∀ session ∈ s.sessions, ∀ tx ∈ session.delivered, ∃ name,
        files.get? name = none ∧ stored.get? name = some tx.envelope.body

/-- No more connections delivered something than there are messages, and as many if and only if none
delivered two. -/
theorem countP_eq_length_iff (sessions : List Session) :
    (sessions.countP fun session => ¬ session.delivered = []) ≤
        (sessions.flatMap Session.delivered).length ∧
      ((sessions.countP fun session => ¬ session.delivered = []) =
          (sessions.flatMap Session.delivered).length ↔
        ∀ session ∈ sessions, session.delivered.length ≤ 1) := by
  induction sessions with
  | nil => simp
  | cons session sessions ih =>
      obtain ⟨hle, hiff⟩ := ih
      rw [List.countP_cons, List.flatMap_cons, List.length_append, List.forall_mem_cons, ← hiff]
      cases session.delivered with
      | nil => simpa using hle
      | cons tx older =>
          simp only [reduceCtorEq, not_false_eq_true, decide_true, if_true, List.length_cons]
          omega

/-- Behind any run every connection has the message that it delivered last in a file of its own, and
no message is lost if and only if no connection delivered two. -/
theorem run_keepsMail_iff (hspools : service.Spools get put) (world : W)
    (hspool : (get world).spool = some (.directory files)) (inputs : List ServerInput)
    (hdistinct : (((start service world).run inputs).sessions.map Session.id).Nodup)
    (hfresh : ∀ session ∈ ((start service world).run inputs).sessions,
      files.get? session.fileName = none) :
    let s := (start service world).run inputs
    Fills get files s ∧ Counted s ∧
      (KeepsMail get files s ↔ ∀ session ∈ s.sessions, session.delivered.length ≤ 1) := by
  intro s
  have hcounted : Counted s := run_counted hspools world inputs
  obtain ⟨stored, hstored, hfiled⟩ : Fills get files s :=
    run_fills hspools world hspool inputs ⟨Session.nodup_fileName hdistinct, hfresh⟩
  refine ⟨⟨stored, hstored, hfiled⟩, hcounted, ?_⟩
  rw [← (countP_eq_length_iff s.sessions).2, ← hcounted.total]
  constructor
  · rintro ⟨other, hother, hsize, -⟩
    have hsame : other = stored := by
      have hspools := hother.symm.trans hstored
      cases hspools
      rfl
    have hfiles := hfiled.size
    rw [hsame] at hsize
    omega
  · intro hall
    refine ⟨stored, hstored, ?_, ?_⟩
    · rw [hfiled.size, hall]
    · intro session hmem tx htx
      refine ⟨session.fileName, hfresh session hmem, ?_⟩
      rw [hcounted.total, (countP_eq_length_iff s.sessions).2] at hall
      have hone : session.delivered = [tx] := by
        have hlength := hall session hmem
        cases hdelivered : session.delivered with
        | nil => simp [hdelivered] at htx
        | cons first older =>
            cases older with
            | nil => simpa [hdelivered, eq_comm] using htx
            | cons second older => simp [hdelivered] at hlength
      rw [hfiled.latest session hmem, hone]
      rfl

end Server

namespace Sample

/-- The body of another message. -/
def secondLetter : List UInt8 :=
  Text.Utf8.encode "ho\r\n.\r\n"

def twoConnections : List ServerInput :=
  [.arrival ⟨1⟩ place place, .arrival ⟨2⟩ place place,
    .session 0 (.bytes (opening ++ letter)), .session 1 (.bytes (opening ++ secondLetter))]

def oneConnection : List ServerInput :=
  [.arrival ⟨1⟩ place place,
    .session 0 (.bytes (opening ++ letter)), .session 0 (.bytes (opening ++ secondLetter))]

theorem service_spools : service.Spools (fun office => office) fun office _ => office where
  handlers := rfl
  get_put _ _ := rfl
  beside := {
    stages := by
      intro stage hstage checker hchecker
      cases stage with
      | handler => exact absurd rfl hstage
      | connection | helo | sender | recipient candidate | data | close => cases hchecker
    authenticator := by
      intro authenticator hauthenticator
      cases hauthenticator }

end Sample

namespace Server

theorem run_keepsMail_iff_letters :
    KeepsMail (fun office => office) {}
      ((start Sample.service Sample.office).run Sample.twoConnections) := by
  have hdistinct : (((start Sample.service Sample.office).run
      Sample.twoConnections).sessions.map Session.id).Nodup := by
    decide +kernel
  have hone : ∀ session ∈ ((start Sample.service Sample.office).run
      Sample.twoConnections).sessions, session.delivered.length ≤ 1 := by
    decide +kernel
  exact (run_keepsMail_iff Sample.service_spools Sample.office rfl Sample.twoConnections hdistinct
    fun _ _ => rfl).2.2.mpr hone

/-- A connection that delivers two messages leaves one file. -/
theorem run_loses_letter :
    let s := (start Sample.service Sample.office).run Sample.oneConnection
    s.counters.messages = 2 ∧ ¬ KeepsMail (fun office => office) {} s := by
  intro s
  have hmessages : s.counters.messages = 2 := by decide +kernel
  have hfiles : s.world.spool.map (fun spool => spool.files.length) = some 1 := by
    decide +kernel
  refine ⟨hmessages, ?_⟩
  rintro ⟨stored, hspool, hsize, -⟩
  have hstored : stored.entries.length = 1 := by
    rw [hspool] at hfiles
    exact Option.some.inj hfiles
  rw [hstored, hmessages] at hsize
  cases hsize

end Server
end MailIntake
