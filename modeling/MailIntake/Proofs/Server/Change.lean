import MailIntake.Server
/-!
What an input can do to the connections of a server, to the world they work on and to the count of
accepted messages (`step_change`).  A connection keeps its place, and an input moves at most one.
-/
namespace MailIntake

universe u

variable {W : Type u}

/-- What is put at a place counts for what stood there. -/
theorem countP_set_add {A : Type u} (p : A → Bool) {items : List A} {place : Nat} {item : A}
    (hplace : items[place]? = some item) (other : A) :
    (items.set place other).countP p + (if p item then 1 else 0) =
      items.countP p + if p other then 1 else 0 := by
  obtain ⟨hlt, hitem⟩ := List.getElem?_eq_some_iff.mp hplace
  have hpos : p item → 0 < items.countP p := fun hp =>
    List.countP_pos_iff.mpr ⟨item, List.mem_of_getElem? hplace, hp⟩
  rw [List.countP_set hlt, hitem]
  split
  · next hp =>
      have := hpos hp
      omega
  · omega

namespace Server

section Fields

variable (s : Server W) (session : Session) (before after : Tally)

@[simp]
theorem count_sessions : (s.count before after).sessions = s.sessions := rfl

@[simp]
theorem count_world : (s.count before after).world = s.world := rfl

@[simp]
theorem count_service : (s.count before after).service = s.service := rfl

@[simp]
theorem count_messages : (s.count before after).counters.messages =
    s.counters.messages + (after.messages - before.messages) := rfl

@[simp]
theorem count_lifecycle : (s.count before after).lifecycle = s.lifecycle := rfl

@[simp]
theorem count_turningAway : (s.count before after).turningAway = s.turningAway := rfl

@[simp]
theorem count_active : (s.count before after).counters.active = s.counters.active := rfl

@[simp]
theorem count_busy : (s.count before after).counters.busy = s.counters.busy := rfl

@[simp]
theorem settle_sessions : (s.settle session).sessions = s.sessions := by
  rw [settle]
  split
  · rfl
  · rfl

@[simp]
theorem settle_world : (s.settle session).world = s.world := by
  rw [settle]
  split
  · rfl
  · rfl

@[simp]
theorem settle_service : (s.settle session).service = s.service := by
  rw [settle]
  split
  · rfl
  · rfl

@[simp]
theorem settle_messages : (s.settle session).counters.messages = s.counters.messages := by
  rw [settle]
  split
  · rfl
  · rfl

@[simp]
theorem settle_turningAway : (s.settle session).turningAway = s.turningAway := by
  rw [settle]
  split
  · rfl
  · rfl

@[simp]
theorem settle_busy : (s.settle session).counters.busy = s.counters.busy := by
  rw [settle]
  split
  · rfl
  · rfl

end Fields

/-- What an input can do to connections, world and count of messages. -/
inductive Change (s after : Server W) : Prop
  | elsewhere (hsessions : after.sessions = s.sessions) (hworld : after.world = s.world)
      (hmessages : after.counters.messages = s.counters.messages)
  | admitted (id : TransactionId) (localAddr remoteAddr : Address.Endpoint) (t : Turn W)
      (hstart : t = Turn.start s.service
        (.start id s.service.hostname localAddr remoteAddr) s.world)
      (hsessions : after.sessions = s.sessions ++ [t.toSession]) (hworld : after.world = t.world)
      (hmessages : after.counters.messages = s.counters.messages + t.tally.messages)
  | advanced (front back : List Session) (session : Session) (input : Input) (t : Turn W)
      (hbefore : s.sessions = front ++ session :: back)
      (hstep : t = Turn.step s.service { session with world := s.world } input)
      (hsessions : after.sessions = front ++ t.toSession :: back) (hworld : after.world = t.world)
      (hmessages : after.counters.messages =
        s.counters.messages + (t.tally.messages - session.tally.messages))

variable (s : Server W)

theorem room?_eq {roomy : Server W} (hroom : s.room? = some roomy) :
    ∃ gate, roomy = { s with gate := gate } := by
  rw [room?] at hroom
  split at hroom
  · next hgate =>
      cases hroom
      exact ⟨s.gate, rfl⟩
  · next gate hgate =>
      obtain ⟨entered, -, rfl⟩ := Option.map_eq_some_iff.mp hroom
      exact ⟨some entered, rfl⟩

/-- What becomes of a connection that arrives. -/
theorem arrive_cases (id : TransactionId) (localAddr remoteAddr : Address.Endpoint) :
    (s.arrive id localAddr remoteAddr).2 = s ∨
      (∃ lifecycle, (s.arrive id localAddr remoteAddr).2 = { s with lifecycle }.turnAway) ∨
        ∃ lifecycle gate, (s.arrive id localAddr remoteAddr).2 =
          { s with lifecycle, gate }.serve id localAddr remoteAddr := by
  rw [arrive]
  split
  · exact .inl rfl
  · next lifecycle hlifecycle =>
      simp only
      split
      · exact .inr (.inl ⟨lifecycle, rfl⟩)
      · next roomy hroom =>
          obtain ⟨gate, rfl⟩ := room?_eq _ hroom
          exact .inr (.inr ⟨lifecycle, gate, rfl⟩)

theorem arrive_change (id : TransactionId) (localAddr remoteAddr : Address.Endpoint) :
    Change s (s.arrive id localAddr remoteAddr).2 := by
  rcases arrive_cases s id localAddr remoteAddr with hsame | ⟨lifecycle, haway⟩ |
    ⟨lifecycle, gate, hserve⟩
  · rw [hsame]
    exact .elsewhere rfl rfl rfl
  · rw [haway]
    exact .elsewhere rfl rfl rfl
  · rw [hserve]
    exact .admitted id localAddr remoteAddr _ rfl (by simp [serve]) (by simp [serve])
      (by simp [serve])

theorem endTurningAway_change (delivered : Bool) : Change s (s.endTurningAway delivered) := by
  rw [endTurningAway]
  split
  · exact .elsewhere rfl rfl rfl
  · exact .elsewhere rfl rfl rfl

theorem advance_change (place : Nat) (input : Input) : Change s (s.advance place input) := by
  rw [advance]
  split
  · exact .elsewhere rfl rfl rfl
  · next session hplace =>
      split
      · exact .elsewhere rfl rfl rfl
      · obtain ⟨hlt, hsession⟩ := List.getElem?_eq_some_iff.mp hplace
        refine .advanced (s.sessions.take place) (s.sessions.drop (place + 1)) session input _
          ?_ rfl ?_ (by simp) (by simp)
        · rw [← hsession, List.getElem_cons_drop, List.take_append_drop]
        · simp [List.set_eq_take_append_cons_drop, hlt]

/-- An input does one of the listed things. -/
theorem step_change (input : ServerInput) : Change s (s.step input) := by
  cases input with
  | arrival id localAddr remoteAddr => exact arrive_change s id localAddr remoteAddr
  | turnedAway delivered => exact endTurningAway_change s delivered
  | session place input => exact advance_change s place input
  | shutdown => exact .elsewhere rfl rfl rfl

/-- The service stays as it is. -/
theorem step_service (input : ServerInput) : (s.step input).service = s.service := by
  cases input with
  | arrival id localAddr remoteAddr =>
      rw [step]
      rcases arrive_cases s id localAddr remoteAddr with hsame | ⟨lifecycle, haway⟩ |
        ⟨lifecycle, gate, hserve⟩
      · rw [hsame]
      · rw [haway]
        rfl
      · rw [hserve]
        simp [serve]
  | turnedAway delivered =>
      simp only [step, endTurningAway]
      split
      · rfl
      · rfl
  | session place input =>
      simp only [step, advance]
      split
      · rfl
      · split
        · rfl
        · simp
  | shutdown => rfl

theorem run_service (inputs : List ServerInput) : (s.run inputs).service = s.service := by
  induction inputs generalizing s with
  | nil => rfl
  | cons input inputs ih => exact (ih (s.step input)).trans (step_service s input)

theorem run_concat (inputs : List ServerInput) (input : ServerInput) :
    s.run (inputs ++ [input]) = (s.run inputs).step input := by
  rw [run, List.foldl_append]
  rfl

end Server
end MailIntake
