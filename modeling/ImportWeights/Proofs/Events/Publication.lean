import ImportWeights.Proofs.Events.Subscriptions

/-! # Publishing to receivers that are gone

A publication reaches every subscription that wants the event and whose receiver is held. Those
that want it and can not get it are named in the error and taken away, and nothing else changes.
So what wants such an event afterwards can get it, until the next receiver is dropped
(`Run.reaches_all`). -/

namespace ImportWeights.Events.Hub

variable {h h' : Hub} {op : Operation} {answer : Answer} {e e' : Event} {receiver : Nat}
  {s : Subscription}

/-- A subscription that wants an event which its receiver, being dropped, can not be handed. -/
def Misses (h : Hub) (e : Event) (s : Subscription) : Prop :=
  s.filter.accepts e = true ∧ h.isHeld s.receiver = false

instance : Decidable (h.Misses e s) := inferInstanceAs (Decidable (_ ∧ _))

/-- Whether every subscription that wants an event can get it. -/
def ReachesAll (h : Hub) (e : Event) : Prop := ∀ s ∈ h.subscriptions, ¬ h.Misses e s

/-! ## Who can not be reached -/

theorem mem_unreachable_iff {id : String} :
    id ∈ h.unreachable e ↔ ∃ s ∈ h.subscriptions, s.id = id ∧ h.Misses e s := by
  simp only [unreachable, Misses, List.mem_map, List.mem_filter, Bool.and_eq_true,
    Bool.not_eq_true']
  constructor
  · rintro ⟨s, ⟨hs, misses⟩, same⟩
    exact ⟨s, hs, same, misses⟩
  · rintro ⟨s, hs, same, misses⟩
    exact ⟨s, ⟨hs, misses⟩, same⟩

theorem unreachable_eq_nil_iff : h.unreachable e = [] ↔ h.ReachesAll e := by
  rw [List.eq_nil_iff_forall_not_mem]
  constructor
  · intro none s hs misses
    exact none s.id (mem_unreachable_iff.mpr ⟨s, hs, rfl, misses⟩)
  · intro all id hid
    obtain ⟨s, hs, -, misses⟩ := mem_unreachable_iff.mp hid
    exact all s hs misses

theorem Sound.unreachable_nodup (sound : Sound h) (e : Event) : (h.unreachable e).Nodup :=
  sound.ids.sublist (List.filter_sublist.map _)

theorem publish_ok_iff : (h.publish e).1 = .ok () ↔ h.ReachesAll e := by
  rw [← unreachable_eq_nil_iff, publish]
  by_cases none : h.unreachable e = [] <;> simp [none]

theorem publish_error {error : NotificationError} (failed : (h.publish e).1 = .error error) :
    error = .publishFailed e.kind (h.unreachable e) := by
  rw [publish] at failed
  by_cases none : h.unreachable e = []
  · simp [none] at failed
  · simpa [none, eq_comm] using failed

/-! ## What is left -/

/-- Ids tell subscriptions apart, so no one is taken away for another. -/
theorem Sound.publish_subscriptions (sound : Sound h) (e : Event) :
    (h.publish e).2.subscriptions = h.subscriptions.filter fun s => ¬ h.Misses e s := by
  refine List.filter_congr fun s hs => ?_
  have named : s.id ∈ h.unreachable e ↔ h.Misses e s := by
    rw [mem_unreachable_iff]
    constructor
    · rintro ⟨t, ht, same, misses⟩
      exact List.inj_on_of_nodup_map sound.ids ht hs same ▸ misses
    · intro misses
      exact ⟨s, hs, rfl, misses⟩
  simp [named]

theorem waitingFor_publish (h : Hub) (e : Event) (receiver : Nat) :
    (h.publish e).2.waitingFor receiver =
      h.waitingFor receiver ++ if h.isHeld receiver && h.wants e receiver then [e] else [] := by
  rw [waitingFor, waitingFor, isHeld_eq, publish_receivers]
  cases h.receivers[receiver]? with
  | none => rfl
  | some r =>
    simp only [Option.map_some, Option.any_some]
    split <;> simp

/-- A held receiver is handed the events that its own subscription accepts, in the order in which
they are published, and the subscription lasts. -/
theorem Run.notices_reach {es : List Event} (run : Run h (notices es) h') (sound : Sound h)
    (hs : s ∈ h.subscriptions) (held : h.isHeld s.receiver = true) :
    h'.waitingFor s.receiver = h.waitingFor s.receiver ++ es.filter s.filter.accepts ∧
      s ∈ h'.subscriptions ∧ h'.isHeld s.receiver = true := by
  generalize hsteps : notices es = steps at run
  induction run generalizing es with
  | start => simp [List.map_eq_nil_iff.mp hsteps, hs, held]
  | @step past found op reply run performed ih =>
    obtain ⟨init, last, rfl, hinit, hlast⟩ := List.map_eq_append_iff.mp hsteps
    obtain ⟨e, rfl, hstep⟩ := List.map_eq_singleton_iff.mp hlast
    obtain ⟨waiting, lasting, held⟩ := ih hinit
    obtain ⟨rfl, -⟩ := Step.mk.inj hstep
    have published : reply.hub = (found.publish e).2 := by
      have effect := effect_of_perform performed
      generalize reply.hub = left at effect
      cases effect with
      | published asked =>
        obtain ⟨other, -⟩ | ⟨same, -⟩ := asked
        · cases other
        · cases same
          rfl
    rw [published]
    refine ⟨?_, (run.sound sound).mem_publish lasting held, by rwa [isHeld_publish]⟩
    rw [waitingFor_publish, held, (run.sound sound).wants lasting, waiting, List.filter_append,
      List.append_assoc]
    cases haccepts : s.filter.accepts e <;> simp [haccepts]

/-! ## Publishing again -/

theorem accepts_eq_of_kind (same : e'.kind = e.kind) (filter : EventFilter) :
    filter.accepts e' = filter.accepts e := by
  cases e with
  | fetch f =>
    cases e' with
    | fetch f' => cases filter <;> rfl
    | scan f' => simp [Event.kind] at same
  | scan f =>
    cases e' with
    | fetch f' => simp [Event.kind] at same
    | scan f' => cases filter <;> rfl

theorem ReachesAll.of_kind (reaches : h.ReachesAll e) (same : e'.kind = e.kind) :
    h.ReachesAll e' := by
  intro s hs misses
  rw [Misses, accepts_eq_of_kind same] at misses
  exact reaches s hs misses

/-- Whoever could not be reached is gone. -/
theorem Sound.reachesAll_publish (sound : Sound h) (e : Event) : (h.publish e).2.ReachesAll e := by
  intro s hs misses
  rw [sound.publish_subscriptions, List.mem_filter, decide_eq_true_eq] at hs
  rw [Misses, isHeld_publish] at misses
  exact hs.2 misses

/-- Only a receiver that is dropped can be missed. -/
theorem ReachesAll.step (reaches : h.ReachesAll e) (effect : Effect h op answer h')
    (kept : ∀ receiver, op ≠ .dropReceiver receiver) : h'.ReachesAll e := by
  rintro s hs ⟨wants, dead⟩
  cases effect with
  | subscribed =>
    rw [isHeld_eq] at dead
    obtain old | new := List.mem_append.mp hs
    · have held : h.isHeld s.receiver = true := by
        simpa [Misses, wants] using reaches s (List.mem_filter.mp old).1
      obtain ⟨r, there, held⟩ := isHeld_iff.mp held
      have lt := (List.getElem?_eq_some_iff.mp there).1
      rw [List.getElem?_append_left lt, there] at dead
      simp [held] at dead
    · rw [List.mem_singleton.mp new] at dead
      simp at dead
  | unsubscribed => exact reaches s (List.mem_filter.mp hs).1 ⟨wants, dead⟩
  | published =>
    rw [isHeld_publish] at dead
    exact reaches s (List.mem_filter.mp hs).1 ⟨wants, dead⟩
  | drained there held =>
    rw [isHeld_emptied there held] at dead
    exact reaches s hs ⟨wants, dead⟩
  | @dropped other held => exact kept other rfl

theorem Run.reachesAll {start : Hub} {steps : List Step} (run : Run start steps h)
    (reaches : start.ReachesAll e) (kept : ∀ receiver, ¬ Dropped steps receiver) :
    h.ReachesAll e := by
  induction run with
  | start => exact reaches
  | step _ performed ih =>
    simp only [dropped_append_one, not_or] at kept
    exact (ih fun receiver => (kept receiver).1).step (effect_of_perform performed)
      fun receiver => (kept receiver).2

/-- A publication succeeds exactly if every subscription that wants the event can get it. If not,
the error names those that can not, each once, and they alone are taken away; what wants the
event and can get it has it once, behind all that waited before, and no other receiver
changes. Afterwards an event of that kind can be published, as long as no receiver is dropped. -/
theorem publication_removes_the_unreachable {past : List Step} (run : Run .empty past h)
    (e : Event) :
    let after := (h.publish e).2
    ((h.publish e).1 = .ok () ↔ ∀ s ∈ h.subscriptions, ¬ h.Misses e s) ∧
    (∀ error, (h.publish e).1 = .error error → ∃ ids, error = .publishFailed e.kind ids ∧
      ids.Nodup ∧ ∀ id, id ∈ ids ↔ ∃ s ∈ h.subscriptions, s.id = id ∧ h.Misses e s) ∧
    after.subscriptions = (h.subscriptions.filter fun s => ¬ h.Misses e s) ∧
    (∀ receiver, after.isHeld receiver = h.isHeld receiver) ∧
    (∀ s ∈ h.subscriptions, s.filter.accepts e = true → h.isHeld s.receiver = true →
      after.waitingFor s.receiver = h.waitingFor s.receiver ++ [e]) ∧
    (∀ receiver, (∀ s ∈ h.subscriptions, s.receiver = receiver → s.filter.accepts e = true →
      h.isHeld receiver = false) → after.waitingFor receiver = h.waitingFor receiver) ∧
    ∀ between later e', Run after between later → (∀ receiver, ¬ Dropped between receiver) →
      e'.kind = e.kind → (later.publish e').1 = .ok () := by
  intro after
  have sound := run.sound .start
  refine ⟨publish_ok_iff, ?_, sound.publish_subscriptions e, h.isHeld_publish e, ?_, ?_, ?_⟩
  · intro error failed
    exact ⟨h.unreachable e, publish_error failed, sound.unreachable_nodup e,
      fun id => mem_unreachable_iff⟩
  · intro s hs wants held
    rw [waitingFor_publish, held, sound.wants hs, wants]
    rfl
  · intro receiver unwanted
    have skipped : (h.isHeld receiver && h.wants e receiver) = false := by
      rw [Bool.and_eq_false_iff, or_iff_not_imp_right, Bool.not_eq_false, wants, List.any_eq_true]
      rintro ⟨s, hs, fed⟩
      rw [Bool.and_eq_true, decide_eq_true_eq] at fed
      exact unwanted s hs fed.1 fed.2
    rw [waitingFor_publish, skipped]
    exact List.append_nil _
  · intro between later e' goesOn kept same
    exact publish_ok_iff.mpr
      ((goesOn.reachesAll (sound.reachesAll_publish e) kept).of_kind same)

/-- Two receivers were dropped, and one of the two subscriptions does not want the event. -/
theorem publication_removes_the_unreachable_mixed :
    let failed := Event.fetch ⟨.failed, "url", none, none⟩
    let queued := Event.fetch ⟨.queued, "url", none, none⟩
    ∃ past h, Run .empty past h ∧
      past.map (·.operation) = [.subscribe "a" .all "s", .subscribe "b" .all "s",
        .subscribe "c" .scanOnly "s", .dropReceiver 1, .dropReceiver 2] ∧
      (h.publish failed).1 ≠ .ok () ∧
      (h.publish failed).2.subscriptions.map (·.id) = ["a", "c"] ∧
      (h.publish failed).2.waitingFor 0 = [failed] ∧
      ((h.publish failed).2.publish queued).1 = .ok () := by
  intro failed queued
  have one := Run.start.step (show empty.perform (.subscribe "a" .all "s") =
    some ⟨.subscribed 0, ⟨[⟨"a", .all, "s", 0⟩], [⟨[], true⟩]⟩, []⟩ from rfl)
  have two := one.step (show perform _ (.subscribe "b" .all "s") = some ⟨.subscribed 1,
    ⟨[⟨"a", .all, "s", 0⟩, ⟨"b", .all, "s", 1⟩], [⟨[], true⟩, ⟨[], true⟩]⟩, []⟩ from rfl)
  have three := two.step (show perform _ (.subscribe "c" .scanOnly "s") = some ⟨.subscribed 2,
    ⟨[⟨"a", .all, "s", 0⟩, ⟨"b", .all, "s", 1⟩, ⟨"c", .scanOnly, "s", 2⟩],
      [⟨[], true⟩, ⟨[], true⟩, ⟨[], true⟩]⟩, []⟩ from rfl)
  have four := three.step (show perform _ (.dropReceiver 1) = some _ from rfl)
  have run := four.step (show perform _ (.dropReceiver 2) = some ⟨.done,
    ⟨[⟨"a", .all, "s", 0⟩, ⟨"b", .all, "s", 1⟩, ⟨"c", .scanOnly, "s", 2⟩],
      [⟨[], true⟩, ⟨[], false⟩, ⟨[], false⟩]⟩, []⟩ from rfl)
  obtain ⟨succeeds, -, left, -, delivered, -, again⟩ :=
    publication_removes_the_unreachable run failed
  refine ⟨_, _, run, rfl, ?_, ?_, ?_, again [] _ queued .start (by simp [Dropped]) rfl⟩
  · exact fun ok => succeeds.mp ok ⟨"b", .all, "s", 1⟩ (by decide) ⟨rfl, rfl⟩
  · rw [left]
    rfl
  · exact delivered ⟨"a", .all, "s", 0⟩ (by decide) rfl rfl

end ImportWeights.Events.Hub
