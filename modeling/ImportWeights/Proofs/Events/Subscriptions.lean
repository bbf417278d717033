import Mathlib.Data.List.Nodup
import ImportWeights.Proofs.Events.Run

/-! # Each subscription sees exactly its events

A receiver is followed from the step that made it. As long as its subscription lasts it is fed
what its filter accepts; once the subscription has ended nothing reaches it, and what it
holds stays. Other subscribers, dead or alive, never come into it: no two subscriptions
share an id or a receiver (`Sound`). -/

namespace ImportWeights.Events.Hub

variable {h h' : Hub} {op : Operation} {answer : Answer} {e : Event} {receiver : Nat}

/-! ## What keeps subscriptions apart -/

/-- No two subscriptions share an id or a receiver, and every receiver they feed was made. -/
structure Sound (h : Hub) : Prop where
  ids : (h.subscriptions.map (·.id)).Nodup
  receivers : (h.subscriptions.map (·.receiver)).Nodup
  made : ∀ s ∈ h.subscriptions, s.receiver < h.receivers.length

theorem Sound.start : Sound .empty := by
  constructor <;> simp [empty]

/-- Taking subscriptions away leaves the rest apart. -/
theorem Sound.fewer (sound : Sound h) (hsub : h'.subscriptions.Sublist h.subscriptions)
    (hlen : h'.receivers.length = h.receivers.length) : Sound h' where
  ids := sound.ids.sublist (hsub.map _)
  receivers := sound.receivers.sublist (hsub.map _)
  made s hs := hlen ▸ sound.made s (hsub.mem hs)

theorem Sound.without (sound : Sound h) (id : String) : Sound (h.without id) :=
  sound.fewer List.filter_sublist rfl

theorem Sound.step (sound : Sound h) (effect : Effect h op answer h') : Sound h' := by
  cases effect with
  | @subscribed id filter source =>
    have rest := sound.without id
    refine ⟨?_, ?_, ?_⟩
    · rw [List.map_append, List.nodup_append]
      refine ⟨rest.ids, by simp, ?_⟩
      intro other hother new hnew
      obtain ⟨s, hs, rfl⟩ := List.mem_map.mp hother
      have hid : s.id ≠ id := by simpa using (List.mem_filter.mp hs).2
      simpa [List.mem_singleton.mp hnew] using hid
    · rw [List.map_append, List.nodup_append]
      refine ⟨rest.receivers, by simp, ?_⟩
      intro other hother new hnew
      obtain ⟨s, hs, rfl⟩ := List.mem_map.mp hother
      have hlt : s.receiver < h.receivers.length := rest.made s hs
      have hnew' : new = h.receivers.length := by simpa using hnew
      omega
    · intro s hs
      rw [List.length_append, List.length_singleton]
      rcases List.mem_append.mp hs with hold | hnew
      · have := rest.made s hold
        exact Nat.lt_succ_of_lt this
      · rw [List.mem_singleton.mp hnew]
        exact Nat.lt_succ_self _
  | unsubscribed => exact sound.without _
  | published => exact sound.fewer List.filter_sublist (by simp [publish])
  | drained => exact sound.fewer (List.Sublist.refl _) (by simp)
  | dropped => exact sound.fewer (List.Sublist.refl _) (by simp [dropReceiver])

theorem Run.sound {steps : List Step} (sound : Sound h) (run : Run h steps h') : Sound h' := by
  induction run with
  | start => exact sound
  | step _ performed ih => exact ih.step (effect_of_perform performed)

/-! ## What a publication does -/

theorem publish_receivers (h : Hub) (e : Event) (receiver : Nat) :
    (h.publish e).2.receivers[receiver]? = h.receivers[receiver]?.map fun r =>
      if r.held && h.wants e receiver then { r with waiting := r.waiting ++ [e] } else r := by
  simp [publish, List.getElem?_mapIdx]

theorem isHeld_iff : h.isHeld receiver = true ↔ ∃ r, h.receivers[receiver]? = some r ∧
    r.held = true := by
  cases hr : h.receivers[receiver]? <;> simp [isHeld, hr]

theorem isHeld_eq (h : Hub) (receiver : Nat) :
    h.isHeld receiver = h.receivers[receiver]?.any (·.held) := by
  cases hr : h.receivers[receiver]? <;> simp [isHeld, hr]

theorem isHeld_publish (h : Hub) (e : Event) (receiver : Nat) :
    (h.publish e).2.isHeld receiver = h.isHeld receiver := by
  rw [isHeld_eq, isHeld_eq, publish_receivers]
  cases h.receivers[receiver]? with
  | none => rfl
  | some r =>
    simp only [Option.map_some, Option.any_some]
    split <;> rfl

/-- Whose receiver is emptied still holds it, and so does everyone else. -/
theorem isHeld_emptied {other : Nat} {r : Receiver} (there : h.receivers[other]? = some r)
    (held : r.held = true) (receiver : Nat) :
    isHeld { h with receivers := h.receivers.set other ⟨[], true⟩ } receiver =
      h.isHeld receiver := by
  have hlt := (List.getElem?_eq_some_iff.mp there).1
  rw [isHeld_eq, isHeld_eq, List.getElem?_set]
  by_cases hsame : other = receiver
  · subst hsame
    rw [if_pos rfl, if_pos hlt, there]
    exact held.symm
  · rw [if_neg hsame]

variable {s : Subscription}

/-- Only the subscription that a receiver belongs to decides what it wants. -/
theorem Sound.wants (sound : Sound h) (hs : s ∈ h.subscriptions) :
    h.wants e s.receiver = s.filter.accepts e := by
  have hunique : ∀ t ∈ h.subscriptions, t.receiver = s.receiver → t = s :=
    fun t ht heq => List.inj_on_of_nodup_map sound.receivers ht hs heq
  rw [Bool.eq_iff_iff, Hub.wants, List.any_eq_true]
  constructor
  · rintro ⟨t, ht, htrue⟩
    rw [Bool.and_eq_true, decide_eq_true_eq] at htrue
    exact hunique t ht htrue.1 ▸ htrue.2
  · intro haccepts
    exact ⟨s, hs, by simp [haccepts]⟩

theorem wants_of_unfed (hfed : ∀ s ∈ h.subscriptions, s.receiver ≠ receiver) :
    h.wants e receiver = false := by
  rw [wants, List.any_eq_false]
  intro s hs
  simp [hfed s hs]

/-- A subscription whose receiver is held outlives the failure of any other. -/
theorem Sound.mem_publish (sound : Sound h) (hs : s ∈ h.subscriptions)
    (held : h.isHeld s.receiver = true) : s ∈ (h.publish e).2.subscriptions := by
  have hreached : s.id ∉ h.unreachable e := by
    intro hfailed
    obtain ⟨t, ht, hid⟩ := List.mem_map.mp hfailed
    obtain ⟨ht, hdead⟩ := List.mem_filter.mp ht
    have heq : t = s := List.inj_on_of_nodup_map sound.ids ht hs hid
    simp [heq, held] at hdead
  exact List.mem_filter.mpr ⟨hs, by simpa using hreached⟩

/-! ## Who was given a receiver -/

/-- The receivers there are, and the ones still held, as the past tells; none was used before
it was given out. -/
structure Births (past : List Step) (h : Hub) : Prop where
  given : ∀ receiver, GivenOut past receiver ↔ receiver < h.receivers.length
  used : ∀ receiver, drained receiver past ≠ [] ∨ Dropped past receiver →
    receiver < h.receivers.length
  held : ∀ receiver, h.isHeld receiver = true ↔
    GivenOut past receiver ∧ ¬ Dropped past receiver

namespace Births

variable {past : List Step}

theorem start : Births [] .empty := by
  constructor <;> simp [empty, GivenOut, Dropped, drained, isHeld]

/-- A step that makes no receiver and drops none. -/
theorem keep (b : Births past h) {s : Step} (hlen : h'.receivers.length = h.receivers.length)
    (hheld : ∀ receiver, h'.isHeld receiver = h.isHeld receiver)
    (hmade : ∀ receiver id filter source,
      s ≠ ⟨.subscribe id filter source, .subscribed receiver⟩)
    (hkept : ∀ receiver, s.operation ≠ .dropReceiver receiver)
    (htook : ∀ receiver, s.drained receiver ≠ [] → receiver < h.receivers.length) :
    Births (past ++ [s]) h' := by
  refine ⟨?_, ?_, ?_⟩
  · intro receiver
    simp [givenOut_append_one, hmade, b.given, hlen]
  · intro receiver hused
    rw [hlen]
    by_cases htake : s.drained receiver = []
    · exact b.used receiver (by simpa [htake, hkept] using hused)
    · exact htook receiver htake
  · intro receiver
    simp [givenOut_append_one, hmade, hkept, hheld, b.held]

theorem step (b : Births past h) (effect : Effect h op answer h') :
    Births (past ++ [⟨op, answer⟩]) h' := by
  cases effect with
  | subscribed =>
    refine ⟨?_, ?_, ?_⟩
    · intro receiver
      simp only [givenOut_append_one, b.given, List.length_append, List.length_singleton]
      constructor
      · rintro (hlt | ⟨_, _, _, heq⟩)
        · omega
        · cases heq
          omega
      · intro hlt
        by_cases hnew : receiver = h.receivers.length
        · exact .inr ⟨_, _, _, by rw [hnew]⟩
        · exact .inl (by omega)
    · intro receiver hused
      have := b.used receiver (by simpa [Step.drained] using hused)
      rw [List.length_append]
      omega
    · intro receiver
      rcases Nat.lt_trichotomy receiver h.receivers.length with hlt | rfl | hgt
      · have hold := b.held receiver
        rw [isHeld_eq] at hold ⊢
        rw [List.getElem?_append_left hlt, hold]
        simp [givenOut_append_one, (Nat.ne_of_gt hlt)]
      · have hnever : ¬ Dropped past h.receivers.length :=
          fun hdropped => Nat.lt_irrefl _ (b.used _ (.inr hdropped))
        simp [isHeld, givenOut_append_one, hnever]
      · have hnone : ¬ GivenOut past receiver := by
          rw [b.given]
          omega
        simp [isHeld, givenOut_append_one, hnone, List.getElem?_append_right (Nat.le_of_lt hgt),
          (Nat.ne_of_lt hgt), Nat.sub_ne_zero_of_lt hgt]
  | unsubscribed => exact b.keep rfl (fun _ => rfl) (by simp) (by simp) (by simp [Step.drained])
  | @published op answer e asked =>
    have hheld := h.isHeld_publish e
    obtain ⟨rfl, rfl⟩ | ⟨rfl, rfl⟩ := asked
    · exact b.keep (by simp [publish]) hheld (by simp) (by simp) (by simp [Step.drained])
    · exact b.keep (by simp [publish]) hheld (by simp) (by simp) (by simp [Step.drained])
  | @drained other r there held =>
    have hlt := (List.getElem?_eq_some_iff.mp there).1
    refine b.keep (by simp) (isHeld_emptied there held) (by simp) (by simp) ?_
    intro receiver htook
    by_cases hsame : other = receiver
    · exact hsame ▸ hlt
    · exact absurd (by simp [Step.drained, hsame]) htook
  | @dropped other held =>
    obtain ⟨r, there, -⟩ := isHeld_iff.mp held
    have hlt := (List.getElem?_eq_some_iff.mp there).1
    refine ⟨?_, ?_, ?_⟩
    · intro receiver
      simp [givenOut_append_one, b.given, dropReceiver]
    · intro receiver hused
      rw [dropReceiver, List.length_modify]
      by_cases hsame : other = receiver
      · exact hsame ▸ hlt
      · exact b.used receiver (by simpa [Step.drained, hsame] using hused)
    · intro receiver
      rw [isHeld_eq, dropReceiver, List.getElem?_modify]
      by_cases hsame : other = receiver
      · subst hsame
        simp [there]
      · have hold := b.held receiver
        rw [isHeld_eq] at hold
        simp [hsame, hold, givenOut_append_one]

end Births

theorem Run.births {past : List Step} (run : Run .empty past h) : Births past h := by
  induction run with
  | start => exact .start
  | step _ performed ih => exact ih.step (effect_of_perform performed)

/-! ## The account of one receiver -/

variable {made : Subscription} {after : List Step} {waiting : List Event}

/-- A subscription feeds its receiver until it ends, and nothing feeds that receiver then. -/
def Fed (made : Subscription) (after : List Step) (h : Hub) : Prop :=
  ¬ Ended after made.id ∧ made ∈ h.subscriptions ∨
    Ended after made.id ∧ ∀ s ∈ h.subscriptions, s.receiver ≠ made.receiver

theorem Fed.isClosed_iff (fed : Fed made after h) :
    h.isClosed made.receiver = true ↔ Ended after made.id := by
  rw [isClosed, Bool.not_eq_true', List.any_eq_false]
  rcases fed with ⟨lasting, hmem⟩ | ⟨ceased, hnone⟩
  · refine ⟨fun hnone => ?_, fun ceased => absurd ceased lasting⟩
    exact absurd (decide_eq_true rfl) (hnone made hmem)
  · refine ⟨fun _ => ceased, fun _ s hs => ?_⟩
    simpa using hnone s hs

/-- A step that leaves the subscriptions alone ends none. -/
theorem Fed.keep (fed : Fed made after h) {s : Step} (hsubs : h'.subscriptions = h.subscriptions)
    (hends : s.ends made.id = false) : Fed made (after ++ [s]) h' := by
  simpa [Fed, hsubs, hends] using fed

/-- A step that takes the subscription of an id away, and may put in one for a new receiver. -/
theorem Fed.ending (fed : Fed made after h) (sound : Sound h) (id : String) {s : Step}
    (hends : s.ends made.id = decide (id = made.id))
    (hrest : ∀ t ∈ (h.without id).subscriptions, t ∈ h'.subscriptions)
    (hnew : ∀ t ∈ h'.subscriptions, t.receiver = made.receiver →
      t ∈ (h.without id).subscriptions) :
    Fed made (after ++ [s]) h' := by
  have hleft : ∀ t ∈ h'.subscriptions, t.receiver = made.receiver →
      t ∈ h.subscriptions ∧ t.id ≠ id := by
    intro t ht heq
    simpa [Hub.without] using hnew t ht heq
  rcases fed with ⟨lasting, hmem⟩ | ⟨ceased, hnone⟩
  · by_cases hid : id = made.id
    · refine .inr ⟨by simp [hends, hid], ?_⟩
      intro t ht heq
      obtain ⟨htold, htid⟩ := hleft t ht heq
      have hsame := List.inj_on_of_nodup_map sound.receivers htold hmem heq
      exact htid (hsame ▸ hid.symm)
    · exact .inl ⟨by simp [hends, hid, lasting],
        hrest made (by simp [Hub.without, hmem, Ne.symm hid])⟩
  · refine .inr ⟨by simp [ceased], ?_⟩
    intro t ht heq
    exact hnone t (hleft t ht heq).1 heq

/-- What the steps since a subscription was made say of its receiver: it is held, and what
was taken out of it and what waits in it are the events it was to see. -/
structure Account (made : Subscription) (after : List Step) (h : Hub) (waiting : List Event) :
    Prop where
  there : h.receivers[made.receiver]? = some ⟨waiting, true⟩
  seen : drained made.receiver after ++ waiting =
    (publishedUntilEnd made.id after).filter made.filter.accepts
  fed : Fed made after h

namespace Account

theorem held (a : Account made after h waiting) : h.isHeld made.receiver = true :=
  isHeld_iff.mpr ⟨_, a.there, rfl⟩

theorem start (there : h.receivers[made.receiver]? = some ⟨[], true⟩)
    (hmem : made ∈ h.subscriptions) : Account made [] h [] :=
  ⟨there, rfl, .inl ⟨by simp [Ended], hmem⟩⟩

/-- A step that publishes nothing at most moves events out of the receiver. -/
theorem silent (a : Account made after h waiting) {s : Step} {rest : List Event}
    (hpub : s.published? = none) (htook : s.drained made.receiver ++ rest = waiting)
    (there : h'.receivers[made.receiver]? = some ⟨rest, true⟩)
    (fed : Fed made (after ++ [s]) h') : Account made (after ++ [s]) h' rest := by
  refine ⟨there, ?_, fed⟩
  rw [drained_append_one, List.append_assoc, htook, publishedUntilEnd_append_silent hpub, a.seen]

/-- A publication reaches the receiver as long as it is fed, and if its filter accepts it. -/
theorem publication (a : Account made after h waiting) (sound : Sound h) {s : Step}
    (hpub : s.published? = some e) (hends : s.ends made.id = false)
    (hdrained : s.drained made.receiver = []) :
    ∃ more, Account made (after ++ [s]) (h.publish e).2 more := by
  have hthere := publish_receivers h e made.receiver
  rw [a.there] at hthere
  rcases a.fed with ⟨lasting, hmem⟩ | ⟨ceased, hnone⟩
  · refine ⟨waiting ++ [e].filter made.filter.accepts, ?_, ?_, .inl ⟨?_, ?_⟩⟩
    · rw [hthere, sound.wants hmem]
      cases haccepts : made.filter.accepts e <;> simp [haccepts]
    · rw [drained_append_one, hdrained, List.append_nil, ← List.append_assoc, a.seen,
        publishedUntilEnd_append_lasting lasting, hends, hpub, List.filter_append]
      rfl
    · simp [lasting, hends]
    · exact sound.mem_publish hmem a.held
  · refine ⟨waiting, ?_, ?_, .inr ⟨by simp [ceased], ?_⟩⟩
    · rw [hthere, wants_of_unfed hnone]
      rfl
    · rw [drained_append_one, hdrained, List.append_nil, a.seen,
        publishedUntilEnd_append_over ceased]
    · intro s hs
      exact hnone s (List.mem_filter.mp hs).1

theorem step (a : Account made after h waiting) (sound : Sound h)
    (effect : Effect h op answer h') (hkept : op ≠ .dropReceiver made.receiver) :
    ∃ more, Account made (after ++ [⟨op, answer⟩]) h' more := by
  have hlt : made.receiver < h.receivers.length := (List.getElem?_eq_some_iff.mp a.there).1
  cases effect with
  | @subscribed id filter source =>
    refine ⟨waiting, a.silent rfl rfl ?_ (a.fed.ending sound id rfl ?_ ?_)⟩
    · rw [List.getElem?_append_left hlt]
      exact a.there
    · intro t ht
      exact List.mem_append_left _ ht
    · intro t ht heq
      rcases List.mem_append.mp ht with hold | hnew
      · exact hold
      · rw [List.mem_singleton.mp hnew] at heq
        exact absurd heq (Nat.ne_of_gt hlt)
  | unsubscribed =>
    exact ⟨waiting, a.silent rfl rfl a.there
      (a.fed.ending sound _ rfl (fun _ ht => ht) fun _ ht _ => ht)⟩
  | published asked =>
    obtain ⟨rfl, rfl⟩ | ⟨rfl, rfl⟩ := asked
    · exact a.publication sound rfl rfl rfl
    · exact a.publication sound rfl rfl rfl
  | @drained other r there held =>
    by_cases hsame : other = made.receiver
    · subst hsame
      have hr : r.waiting = waiting := by
        have hboth := there.symm.trans a.there
        simp only [Option.some.injEq] at hboth
        rw [hboth]
      exact ⟨[], a.silent rfl (by simp [Step.drained, hr]) (by simp [hlt]) (a.fed.keep rfl rfl)⟩
    · refine ⟨waiting, a.silent rfl (by simp [Step.drained, hsame]) ?_ (a.fed.keep rfl rfl)⟩
      rw [List.getElem?_set_ne hsame]
      exact a.there
  | @dropped other held =>
    have hother : other ≠ made.receiver := fun heq => hkept (heq ▸ rfl)
    refine ⟨waiting, a.silent rfl rfl ?_ (a.fed.keep rfl rfl)⟩
    simp [dropReceiver, hother, a.there]

end Account

/-- The account is kept over any run in which the receiver is not dropped. -/
theorem Run.account (made : Subscription) {start : Hub} (run : Run start after h)
    (sound : Sound start) (there : start.receivers[made.receiver]? = some ⟨[], true⟩)
    (hmem : made ∈ start.subscriptions) (hkept : ¬ Dropped after made.receiver) :
    ∃ waiting, Account made after h waiting := by
  induction run with
  | start => exact ⟨[], .start there hmem⟩
  | step run performed ih =>
    rw [dropped_append_one, not_or] at hkept
    obtain ⟨waiting, a⟩ := ih hkept.1
    exact a.step (run.sound sound) (effect_of_perform performed) hkept.2

/-- After any run the receivers held are those given out and not dropped. What was taken out
of one and what waits in it are together the events that its filter accepts among those
published from its own subscription to the end of it, in order; and it is closed exactly if
its id was subscribed again or unsubscribed since. -/
theorem receivers_see_their_events {past : List Step} (run : Run .empty past h) :
    (∀ receiver, h.isHeld receiver = true ↔
      GivenOut past receiver ∧ ¬ Dropped past receiver) ∧
    ∀ before id filter source receiver after,
      past = before ++ ⟨.subscribe id filter source, .subscribed receiver⟩ :: after →
      ¬ Dropped past receiver →
      drained receiver past ++ h.waitingFor receiver =
        (publishedUntilEnd id after).filter filter.accepts ∧
      (h.isClosed receiver = true ↔ Ended after id) := by
  refine ⟨run.births.held, ?_⟩
  rintro before id filter source receiver after rfl hkept
  obtain ⟨found, left, hbefore, heffect, hafter⟩ := run.cut
  have hsound := hbefore.sound .start
  have hleft := hsound.step heffect
  obtain ⟨rfl, rfl⟩ := heffect.of_subscribe
  have hearlier : drained found.receivers.length before = [] := by
    by_contra hused
    exact Nat.lt_irrefl _ (hbefore.births.used _ (.inl hused))
  have hlater : ¬ Dropped after found.receivers.length := by
    rintro ⟨s, hs, hop⟩
    exact hkept ⟨s, by simp [hs], hop⟩
  obtain ⟨waiting, account⟩ := Run.account ⟨id, filter, source, found.receivers.length⟩
    hafter hleft (by simp) (by simp) hlater
  refine ⟨?_, account.fed.isClosed_iff⟩
  have hwaiting : h.waitingFor found.receivers.length = waiting := by
    simp [waitingFor, account.there]
  rw [hwaiting, ← account.seen, drained, List.flatMap_append, List.flatMap_cons, ← drained,
    hearlier]
  rfl

/-- One subscriber is gone without a word, and another is replaced under its id: the older
receiver of that id keeps what it was sent, and the newer one sees what comes after. -/
theorem receivers_see_their_events_replaced :
    let begun := Event.scan ⟨.started, "repo", 1, none⟩
    let failed := Event.fetch ⟨.failed, "url", none, none⟩
    ∃ past h, Run .empty past h ∧
      past.map (·.operation) = [.subscribe "a" .all "s", .subscribe "b" .all "s",
        .dropReceiver 1, .publish begun, .subscribe "a" .fetchOnly "t", .notify failed] ∧
      drained 0 past ++ h.waitingFor 0 = [begun] ∧ h.isClosed 0 = true ∧
      drained 2 past ++ h.waitingFor 2 = [failed] ∧ h.isClosed 2 = false := by
  intro begun failed
  have one := Run.start.step (show empty.perform (.subscribe "a" .all "s") =
    some ⟨.subscribed 0, ⟨[⟨"a", .all, "s", 0⟩], [⟨[], true⟩]⟩, []⟩ from rfl)
  have two := one.step (show perform _ (.subscribe "b" .all "s") = some ⟨.subscribed 1,
    ⟨[⟨"a", .all, "s", 0⟩, ⟨"b", .all, "s", 1⟩], [⟨[], true⟩, ⟨[], true⟩]⟩, []⟩ from rfl)
  have three := two.step (show perform _ (.dropReceiver 1) = some ⟨.done,
    ⟨[⟨"a", .all, "s", 0⟩, ⟨"b", .all, "s", 1⟩], [⟨[], true⟩, ⟨[], false⟩]⟩, []⟩ from rfl)
  have four := three.step (show perform _ (.publish begun) =
    some ⟨.published (.error (.publishFailed "Scan" ["b"])),
      ⟨[⟨"a", .all, "s", 0⟩], [⟨[begun], true⟩, ⟨[], false⟩]⟩, []⟩ from rfl)
  have five := four.step (show perform _ (.subscribe "a" .fetchOnly "t") = some _ from rfl)
  have run := five.step (show perform _ (.notify failed) = some _ from rfl)
  have seen := (receivers_see_their_events run).2
  have older := seen [] "a" .all "s" 0 _ rfl (by simp [Dropped])
  have newer := seen [_, _, _, _] "a" .fetchOnly "t" 2 [_] rfl (by simp [Dropped])
  refine ⟨_, _, run, rfl, older.1.trans (by decide), older.2.mpr ?_,
    newer.1.trans (by decide), Bool.not_eq_true _ ▸ mt newer.2.mp ?_⟩
  · simp [Ended, Step.ends]
  · simp [Ended, Step.ends]

end ImportWeights.Events.Hub
