import Mathlib.Data.List.Nodup
import ImportWeights.Shutdown.Coordinator

/-! # A shutdown is never missed

Any number of parties share one coordinator: some ask for the shutdown, others wait for it, and
their steps come in any order. Who asks sets the flag before it sends the signal, and who waits
looks at the flag after it has subscribed. So whoever finds the flag unset has subscribed before
the first signal, and has it still to come (`Sound.early`). -/

namespace ImportWeights.Shutdown

/-- One who asks for the shutdown: first the flag, then the signal. -/
inductive Trigger where
  | ready
  | flagged
  | completed
deriving DecidableEq, Repr

/-- The next step of one who asks. -/
def Trigger.step (c : Coordinator) : Trigger → Trigger × Coordinator
  | .ready => (.flagged, c.request)
  | .flagged => (.completed, c.send)
  | .completed => (.completed, c)

/-- Without anyone between them, the two steps are those of `Coordinator.trigger`. -/
theorem Trigger.step_step (c : Coordinator) :
    (step (step c .ready).2 (step c .ready).1) = (.completed, c.trigger) := rfl

/-- The number of the subscription on which one waits. -/
def Waiter.subscriber? : Waiter → Option Nat
  | .subscribed i => some i
  | .receiving i => some i
  | .ready => none
  | .released => none

/-- All that one step of a waiter can be, and what has to hold for it. -/
inductive Waiter.Effect (c : Coordinator) : Waiter → Waiter → Coordinator → Prop where
  | subscribed :
      Effect c .ready (.subscribed c.cursors.length) { c with cursors := c.cursors ++ [c.sent] }
  | foundFlag {i : Nat} (requested : c.requested = true) : Effect c (.subscribed i) .released c
  | foundNoFlag {i : Nat} (unset : c.requested = false) :
      Effect c (.subscribed i) (.receiving i) c
  | received {i cursor next : Nat} (there : c.cursors[i]? = some cursor)
      (behind : cursor < c.sent) (bound : next ≤ c.sent) :
      Effect c (.receiving i) .released { c with cursors := c.cursors.set i next }
  | foundNothing {i : Nat} (seen : ∀ cursor, c.cursors[i]? = some cursor → c.sent ≤ cursor) :
      Effect c (.receiving i) (.receiving i) c
  | stayed : Effect c .released .released c

/-- A subscriber gets something, a signal or word of missed ones, exactly if it is behind. -/
theorem receive_of_behind {c : Coordinator} {i cursor : Nat} (there : c.cursors[i]? = some cursor)
    (behind : cursor < c.sent) :
    ∃ answer next, answer ≠ .nothing ∧ next ≤ c.sent ∧
      c.receive i = some (answer, { c with cursors := c.cursors.set i next }) := by
  have unseen : ¬ c.sent ≤ cursor := Nat.not_le.mpr behind
  by_cases far : cursor + capacity < c.sent
  · exact ⟨.lagged (c.sent - capacity - cursor), c.sent - capacity, by simp, Nat.sub_le _ _,
      by simp [Coordinator.receive, there, unseen, far]⟩
  · exact ⟨.signal, cursor + 1, by simp, behind,
      by simp [Coordinator.receive, there, unseen, far]⟩

theorem Waiter.effect_step (c : Coordinator) (w : Waiter) :
    Effect c w (w.step c).1 (w.step c).2 := by
  cases w with
  | ready => exact .subscribed
  | subscribed i =>
    cases flag : c.requested with
    | true => simpa [Waiter.step, flag] using Effect.foundFlag flag
    | false => simpa [Waiter.step, flag] using Effect.foundNoFlag flag
  | receiving i =>
    by_cases behind : ∃ cursor, c.cursors[i]? = some cursor ∧ cursor < c.sent
    · obtain ⟨cursor, there, behind⟩ := behind
      obtain ⟨answer, next, something, bound, received⟩ := receive_of_behind there behind
      cases answer with
      | nothing => exact absurd rfl something
      | signal => simpa [Waiter.step, received] using Effect.received there behind bound
      | lagged missed => simpa [Waiter.step, received] using Effect.received there behind bound
    · have seen : ∀ cursor, c.cursors[i]? = some cursor → c.sent ≤ cursor :=
        fun cursor there => Nat.le_of_not_lt fun lt => behind ⟨cursor, there, lt⟩
      have stays : (Waiter.receiving i).step c = (.receiving i, c) := by
        cases there : c.cursors[i]? with
        | none => simp [Waiter.step, Coordinator.receive, there]
        | some cursor => simp [Waiter.step, Coordinator.receive, there, seen cursor there]
      rw [stays]
      exact .foundNothing seen
  | released => exact .stayed

/-- The coordinator with all who share it. -/
structure Parties where
  coordinator : Coordinator
  triggers : List Trigger
  waiters : List Waiter

namespace Parties

/-- A new coordinator, which no one shares yet. -/
def alone : Parties := ⟨.fresh, [], []⟩

/-- What can happen next: someone comes, or someone goes a step further. -/
inductive Step (s : Parties) : Parties → Prop where
  | triggerComes : Step s { s with triggers := s.triggers ++ [.ready] }
  | waiterComes : Step s { s with waiters := s.waiters ++ [.ready] }
  | trigger (before : List Trigger) (t : Trigger) (after : List Trigger)
      (there : s.triggers = before ++ t :: after) :
      Step s { s with
        coordinator := (t.step s.coordinator).2
        triggers := before ++ (t.step s.coordinator).1 :: after }
  | waiter (before : List Waiter) (w : Waiter) (after : List Waiter)
      (there : s.waiters = before ++ w :: after) :
      Step s { s with
        coordinator := (w.step s.coordinator).2
        waiters := before ++ (w.step s.coordinator).1 :: after }

/-- What the parties can come to, in whatever order they take their steps. -/
inductive Reachable : Parties → Prop where
  | start : Reachable .alone
  | step {s s' : Parties} : Reachable s → Step s s' → Reachable s'

/-- The subscriptions on which someone waits. -/
def awaited (ws : List Waiter) : List Nat := ws.filterMap Waiter.subscriber?

/-- What the flag, the signals and the cursors tell of the parties. -/
structure Sound (s : Parties) : Prop where
  flag : s.coordinator.requested = true ↔ ∃ t ∈ s.triggers, t ≠ .ready
  sent : 0 < s.coordinator.sent ↔ .completed ∈ s.triggers
  /-- No cursor is ahead of the signals. -/
  bound : ∀ cursor ∈ s.coordinator.cursors, cursor ≤ s.coordinator.sent
  /-- No two wait on one subscription. -/
  apart : (awaited s.waiters).Nodup
  made : ∀ i ∈ awaited s.waiters, i < s.coordinator.cursors.length
  /-- Who receives has the first signal still to come. -/
  early : ∀ i, .receiving i ∈ s.waiters → s.coordinator.cursors[i]? = some 0
  ended : .released ∈ s.waiters → s.coordinator.requested = true

variable {s s' : Parties}

theorem Sound.start : Sound .alone := by
  constructor <;> simp [alone, Coordinator.fresh, awaited]

theorem Sound.trigger (sound : Sound s) {before after : List Trigger} {t : Trigger}
    (there : s.triggers = before ++ t :: after) :
    Sound { s with
      coordinator := (t.step s.coordinator).2
      triggers := before ++ (t.step s.coordinator).1 :: after } := by
  have flag := sound.flag
  have sent := sound.sent
  rw [there] at flag sent
  cases t with
  | ready =>
    exact { sound with
      flag := by simp [Trigger.step, Coordinator.request, or_and_right, exists_or]
      sent := by simpa [Trigger.step, Coordinator.request] using sent
      ended := fun _ => rfl }
  | flagged =>
    exact { sound with
      flag := by
        have set : s.coordinator.requested = true := flag.mpr ⟨.flagged, by simp, by simp⟩
        simp [Trigger.step, Coordinator.send, set, or_and_right, exists_or]
      sent := by simp [Trigger.step, Coordinator.send]
      bound := fun cursor hc => Nat.le_succ_of_le (sound.bound cursor hc) }
  | completed => exact { sound with flag, sent }

/-- A signal is sent only after the flag is set. -/
theorem Sound.requested_of_sent (sound : Sound s) (signalled : 0 < s.coordinator.sent) :
    s.coordinator.requested = true :=
  sound.flag.mpr ⟨.completed, sound.sent.mp signalled, by simp⟩

section Waiter

variable {before after : List Waiter} {w w' : Waiter} {c : Coordinator} {i : Nat}

@[simp] theorem awaited_append : awaited (before ++ after) = awaited before ++ awaited after :=
  List.filterMap_append

@[simp] theorem awaited_cons : awaited (w :: after) = w.subscriber?.toList ++ awaited after := by
  cases h : w.subscriber? <;> simp [awaited, h]

theorem mem_awaited (h : .receiving i ∈ before) : i ∈ awaited before :=
  List.mem_filterMap.mpr ⟨.receiving i, h, rfl⟩

theorem Sound.subscribed (sound : Sound s) (there : s.waiters = before ++ .ready :: after) :
    Sound { s with
      coordinator := s.coordinator.subscribe.2
      waiters := before ++ .subscribed s.coordinator.cursors.length :: after } := by
  have old : awaited s.waiters = awaited before ++ awaited after := by
    simp [there, Waiter.subscriber?]
  have new : awaited (before ++ .subscribed s.coordinator.cursors.length :: after) =
      awaited before ++ s.coordinator.cursors.length :: awaited after := by
    simp [Waiter.subscriber?]
  have apart := sound.apart
  have made := sound.made
  rw [old] at apart made
  refine ⟨sound.flag, sound.sent, ?_, ?_, ?_, ?_, ?_⟩
  · simpa [Coordinator.subscribe, or_imp, forall_and] using sound.bound
  · rw [new, List.nodup_middle, List.nodup_cons]
    exact ⟨fun hmem => Nat.lt_irrefl _ (made _ hmem), apart⟩
  · intro i hi
    rw [new, List.perm_middle.mem_iff] at hi
    rw [Coordinator.subscribe, List.length_append, List.length_singleton,
      Nat.lt_succ_iff_lt_or_eq]
    obtain rfl | hi := List.mem_cons.mp hi
    · exact .inr rfl
    · exact .inl (made i hi)
  · intro i hi
    have kept := sound.early i (by simpa [there] using hi)
    rw [Coordinator.subscribe, List.getElem?_append_left (List.getElem?_eq_some_iff.mp kept).1,
      kept]
  · exact fun hmem => sound.ended (by simpa [there] using hmem)

/-- Whoever finds the flag unset has subscribed before the first signal. -/
theorem Sound.receiving (sound : Sound s) (there : s.waiters = before ++ .subscribed i :: after)
    (unset : s.coordinator.requested = false) :
    Sound { s with waiters := before ++ .receiving i :: after } := by
  have same : awaited (before ++ .receiving i :: after) = awaited s.waiters := by
    simp [there, Waiter.subscriber?]
  have unsent : s.coordinator.sent = 0 := by
    refine Nat.eq_zero_of_not_pos fun signalled => ?_
    simpa [unset] using sound.requested_of_sent signalled
  refine { sound with
    apart := same ▸ sound.apart
    made := same ▸ sound.made
    early := ?_
    ended := fun hmem => sound.ended (by simpa [there] using hmem) }
  intro j hj
  by_cases here : j = i
  · have made := sound.made j (by simp [there, Waiter.subscriber?, here])
    have bound := sound.bound _ (List.getElem_mem made)
    rw [unsent] at bound
    exact List.getElem?_eq_some_iff.mpr ⟨made, Nat.le_zero.mp bound⟩
  · exact sound.early j (by simpa [there, here] using hj)

/-- Who is released no longer waits, so where its cursor stands says nothing. -/
theorem Sound.released (sound : Sound s) (there : s.waiters = before ++ w :: after)
    (waits : w.subscriber? = some i) (requested : s.coordinator.requested = true) {next : Nat}
    (bound : next ≤ s.coordinator.sent) :
    Sound { s with
      coordinator := { s.coordinator with cursors := s.coordinator.cursors.set i next }
      waiters := before ++ .released :: after } := by
  have rest : awaited (before ++ .released :: after) = awaited before ++ awaited after := by
    simp [Waiter.subscriber?]
  have whole : awaited s.waiters = awaited before ++ i :: awaited after := by
    simp [there, waits]
  have apart := sound.apart
  have made := sound.made
  rw [whole, List.nodup_middle, List.nodup_cons] at apart
  refine ⟨sound.flag, sound.sent, ?_, ?_, ?_, ?_, fun _ => requested⟩
  · intro cursor hcursor
    obtain hcursor | rfl := List.mem_or_eq_of_mem_set hcursor
    · exact sound.bound cursor hcursor
    · exact bound
  · exact rest ▸ apart.2
  · intro j hj
    rw [rest] at hj
    rw [List.length_set]
    exact made j (whole ▸ List.perm_middle.mem_iff.mpr (List.mem_cons_of_mem i hj))
  · intro j hj
    have other : i ≠ j := fun same => apart.1 (same ▸ rest ▸ mem_awaited hj)
    have kept : .receiving j ∈ before ++ after := by simpa using hj
    rw [List.getElem?_set_ne other]
    exact sound.early j (there ▸ List.perm_middle.mem_iff.mpr (List.mem_cons_of_mem w kept))

theorem Sound.waiter (sound : Sound s) (there : s.waiters = before ++ w :: after)
    (effect : w.Effect s.coordinator w' c) :
    Sound { s with coordinator := c, waiters := before ++ w' :: after } := by
  cases effect with
  | subscribed => exact sound.subscribed there
  | @foundFlag i requested =>
    have made := sound.made i (by simp [there, Waiter.subscriber?])
    have same := sound.released there rfl requested (sound.bound _ (List.getElem_mem made))
    rwa [List.set_getElem_self] at same
  | foundNoFlag unset => exact sound.receiving there unset
  | received _ behind bound =>
    exact sound.released there rfl (sound.requested_of_sent (Nat.zero_lt_of_lt behind)) bound
  | foundNothing => exact there ▸ sound
  | stayed => exact there ▸ sound

end Waiter

theorem Sound.step (sound : Sound s) (step : Step s s') : Sound s' := by
  cases step with
  | triggerComes =>
    exact { sound with
      flag := by simp [sound.flag, or_and_right]
      sent := by simp [sound.sent] }
  | waiterComes =>
    have same : awaited (s.waiters ++ [.ready]) = awaited s.waiters := by
      simp [Waiter.subscriber?, awaited]
    exact { sound with
      apart := same ▸ sound.apart
      made := same ▸ sound.made
      early := by simpa using sound.early
      ended := by simpa using sound.ended }
  | trigger _ _ _ there => exact sound.trigger there
  | waiter _ _ _ there => exact sound.waiter there (Waiter.effect_step _ _)

theorem Reachable.sound (reachable : Reachable s) : Sound s := by
  induction reachable with
  | start => exact .start
  | step _ next ih => exact ih.step next

/-- Whenever some trigger is complete, whoever receives has something to receive, and so is released
by its next step; and whoever is released, now or by its next step, is so only after some trigger
has set the flag. -/
theorem shutdown_is_never_missed (reachable : Reachable s) :
    (.completed ∈ s.triggers → ∀ i, .receiving i ∈ s.waiters →
      (∃ answer c, s.coordinator.receive i = some (answer, c) ∧ answer ≠ .nothing) ∧
      ((Waiter.receiving i).step s.coordinator).1 = .released) ∧
    ∀ w ∈ s.waiters, (w.step s.coordinator).1 = .released → ∃ t ∈ s.triggers, t ≠ .ready := by
  have sound := reachable.sound
  constructor
  · intro completed i waiting
    have behind := sound.sent.mpr completed
    obtain ⟨answer, next, something, -, received⟩ :=
      receive_of_behind (sound.early i waiting) behind
    refine ⟨⟨answer, _, received, something⟩, ?_⟩
    cases answer with
    | nothing => exact absurd rfl something
    | signal => simp [Waiter.step, received]
    | lagged missed => simp [Waiter.step, received]
  · intro w hw gone
    have effect := Waiter.effect_step s.coordinator w
    rw [gone] at effect
    generalize (w.step s.coordinator).2 = left at effect
    refine sound.flag.mp ?_
    cases effect with
    | foundFlag requested => exact requested
    | received _ behind _ => exact sound.requested_of_sent (Nat.zero_lt_of_lt behind)
    | stayed => exact sound.ended hw

/-- One waits already when the flag is set, another one subscribes before the signal is sent. -/
def betweenHalves : Parties := ⟨⟨true, 1, [0, 0]⟩, [.completed], [.receiving 0, .subscribed 1]⟩

theorem betweenHalves_reachable : Reachable betweenHalves := by
  have come : Reachable ⟨.fresh, [.ready], [.ready, .ready]⟩ :=
    .step (.step (.step .start .triggerComes) .waiterComes) .waiterComes
  have subscribed : Reachable ⟨⟨false, 0, [0]⟩, [.ready], [.subscribed 0, .ready]⟩ :=
    come.step (.waiter [] .ready [.ready] rfl)
  have waits : Reachable ⟨⟨false, 0, [0]⟩, [.ready], [.receiving 0, .ready]⟩ :=
    subscribed.step (.waiter [] (.subscribed 0) [.ready] rfl)
  have flagged : Reachable ⟨⟨true, 0, [0]⟩, [.flagged], [.receiving 0, .ready]⟩ :=
    waits.step (.trigger [] .ready [] rfl)
  have late : Reachable ⟨⟨true, 0, [0, 0]⟩, [.flagged], [.receiving 0, .subscribed 1]⟩ :=
    flagged.step (.waiter [.receiving 0] .ready [] rfl)
  exact late.step (.trigger [] .flagged [] rfl)

theorem shutdown_is_never_missed_between_halves :
    Reachable betweenHalves ∧ .completed ∈ betweenHalves.triggers ∧
    (∃ answer c, betweenHalves.coordinator.receive 0 = some (answer, c) ∧ answer ≠ .nothing) ∧
    ((Waiter.receiving 0).step betweenHalves.coordinator).1 = .released ∧
    ((Waiter.subscribed 1).step betweenHalves.coordinator).1 = .released ∧
    ∃ t ∈ betweenHalves.triggers, t ≠ .ready := by
  have missed := shutdown_is_never_missed betweenHalves_reachable
  have late : ((Waiter.subscribed 1).step betweenHalves.coordinator).1 = .released := rfl
  obtain ⟨something, released⟩ := missed.1 (by decide) 0 (by decide)
  exact ⟨betweenHalves_reachable, by decide, something, released, late,
    missed.2 (.subscribed 1) (by decide) late⟩

end Parties
end ImportWeights.Shutdown
