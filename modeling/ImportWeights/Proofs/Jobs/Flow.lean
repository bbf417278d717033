import Mathlib.Data.List.Basic
import ImportWeights.Proofs.Jobs.Conservation

/-! A queue whose consumer neither closes nor leaves it, and whose publisher handles have
known owners. It takes every job that it is offered, and it ends once the last owner has
let go and everything was given out. -/

namespace ImportWeights.Jobs

/-- The queue has taken the jobs `ins` and given out the jobs `outs`, and its consumer has
only received. -/
def Flow (q : JobQueue) (ins outs : List Job) : Prop :=
  ∃ past, Run JobQueue.defaultHighWaterMark past q ∧ ¬ CloseCalled past ∧
    ¬ ConsumerDropped past ∧ accepted past = ins ∧ received past = outs

namespace Flow

variable {q : JobQueue} {ins outs : List Job} {handle : Nat}

theorem start : Flow .fresh [] [] :=
  ⟨[], .start, by simp [CloseCalled], by simp [ConsumerDropped], rfl, rfl⟩

/-- A step of a publisher, or one that receives, goes on with the flow. -/
theorem step (flow : Flow q ins outs) {op : Operation} {reply : Reply}
    (h : q.perform op = some reply) (hc : op ≠ .close) (hd : op ≠ .dropConsumer)
    (input output : Option Job) (hi : Step.accepted? ⟨q, op, reply⟩ = input)
    (ho : Step.received? ⟨q, op, reply⟩ = output) :
    Flow reply.queue (ins ++ input.toList) (outs ++ output.toList) := by
  obtain ⟨past, run, closed, dropped, rfl, rfl⟩ := flow
  exact ⟨_, run.step h, by simp [closed, hc], by simp [dropped, hd], by simp [hi], by simp [ho]⟩

theorem isOpen (flow : Flow q ins outs) : q.isClosed = false := by
  obtain ⟨past, run, closed, dropped, -, -⟩ := flow
  rw [← Bool.not_eq_true, run.ends.isClosed]
  exact not_or.mpr ⟨closed, dropped⟩

theorem hasConsumer (flow : Flow q ins outs) : q.hasConsumer = true := by
  obtain ⟨past, run, -, dropped, -, -⟩ := flow
  exact run.ends.consumer.mpr dropped

theorem kept (flow : Flow q ins outs) : outs ++ q.waiting = ins := by
  have consumer := flow.hasConsumer
  obtain ⟨past, run, -, -, rfl, rfl⟩ := flow
  exact run.accounts.kept consumer

theorem numbered (flow : Flow q ins outs) :
    ins.map (·.sequence) = List.range' 1 ins.length := by
  obtain ⟨past, run, -, -, rfl, -⟩ := flow
  exact run.accounts.numbered

theorem clone (flow : Flow q ins outs) (held : q.holds handle = true) :
    Flow (q.clonePublisher handle).2 ins outs := by
  have h : q.perform (.clonePublisher handle) =
      some ⟨.cloned (q.clonePublisher handle).1, (q.clonePublisher handle).2, []⟩ := if_pos held
  simpa using flow.step h (by simp) (by simp) none none rfl rfl

theorem drop (flow : Flow q ins outs) (held : q.holds handle = true) :
    Flow (q.dropPublisher handle) ins outs := by
  have h : q.perform (.dropPublisher handle) = some ⟨.done, q.dropPublisher handle, []⟩ :=
    if_pos held
  simpa using flow.step h (by simp) (by simp) none none rfl rfl

/-- An offer through a handle that is held is taken. -/
theorem offer (flow : Flow q ins outs) (held : q.holds handle = true) (folder url : String) :
    ∃ job, (q.offer folder url).answer = .ok job ∧
      Flow (q.offer folder url).queue (ins ++ [job]) outs := by
  have ho := JobQueue.offer_of_open flow.isOpen folder url
  have h : q.perform (.publish handle folder url) = some ⟨.published (.ok q.nextSequence),
      (q.offer folder url).queue, (q.offer folder url).log⟩ := by
    simp [JobQueue.perform, JobQueue.publish, held, ho, Except.map]
  refine ⟨⟨folder, url, q.nextSequence⟩, by rw [ho], ?_⟩
  simpa using flow.step h (by simp) (by simp) (some ⟨folder, url, q.nextSequence⟩) none rfl rfl

theorem offer_handles (flow : Flow q ins outs) (folder url : String) :
    (q.offer folder url).queue.handles = q.handles := by
  rw [JobQueue.offer_of_open flow.isOpen]

theorem receive {job : Job} (flow : Flow q ins outs) (next : q.receive.1 = .job job) :
    Flow q.receive.2 ins (outs ++ [job]) := by
  have h : q.perform .recv = some ⟨.received (.job job), q.receive.2, []⟩ := by
    simp [JobQueue.perform, flow.hasConsumer, next]
  simpa using flow.step h (by simp) (by simp) none (some job) rfl rfl

theorem ended_iff (flow : Flow q ins outs) :
    q.receive.1 = .ended ↔ q.waiting = [] ∧ ∀ handle, q.holds handle = false := by
  have consumer := flow.hasConsumer
  obtain ⟨past, run, closed, -, -, -⟩ := flow
  simp [run.recv_ended_iff consumer, closed, ← run.handles.holds]

end Flow

/-- The owners of a queue's publisher handles: `own` may have been let go, the others are
all held, and nobody else holds one. -/
structure Owned (q : JobQueue) (own : Nat) (others : List Nat) : Prop where
  held : ∀ handle ∈ others, q.holds handle = true
  only : ∀ handle, q.holds handle = true → handle = own ∨ handle ∈ others
  distinct : (own :: others).Nodup
  known : own < q.handles.length

namespace Owned

variable {q : JobQueue} {own handle : Nat} {others : List Nat}

theorem start : Owned .fresh 0 [] := by
  refine ⟨by simp, fun handle held => .inl ?_, by simp, by decide⟩
  cases handle with
  | zero => rfl
  | succ n => simp [JobQueue.fresh, JobQueue.withHighWaterMark, JobQueue.holds] at held

theorem perm (o : Owned q own others) {others' : List Nat} (h : others.Perm others') :
    Owned q own others' :=
  ⟨fun x hx => o.held x (h.mem_iff.mpr hx), fun x hx => (o.only x hx).imp_right h.mem_iff.mp,
    (h.cons own).nodup_iff.mp o.distinct, o.known⟩

/-- Owners depend on the handles alone. -/
theorem congr (o : Owned q own others) {q' : JobQueue} (h : q'.handles = q.handles) :
    Owned q' own others := by
  have holds (handle : Nat) : q'.holds handle = q.holds handle := by simp [JobQueue.holds, h]
  exact ⟨fun x hx => holds x ▸ o.held x hx, fun x hx => o.only x (holds x ▸ hx), o.distinct,
    h ▸ o.known⟩

/-- The number of a new handle belongs to nobody yet. -/
theorem fresh (o : Owned q own others) : q.handles.length ∉ own :: others := by
  intro h
  rcases List.mem_cons.mp h with he | hm
  · exact absurd o.known (by omega)
  · exact absurd (lt_of_holds (o.held _ hm)) (by omega)

theorem clone (o : Owned q own others) (held : q.holds handle = true) :
    Owned (q.clonePublisher handle).2 own (q.handles.length :: others) := by
  obtain ⟨hown, hothers⟩ := not_or.mp (List.mem_cons.not.mp o.fresh)
  have holds (x : Nat) : (q.clonePublisher handle).2.holds x =
      if x = q.handles.length then true else q.holds x := by
    rw [← held]
    exact holds_append q _ x
  constructor
  · intro x hx
    rw [holds]
    split
    · rfl
    · rename_i hn
      exact o.held x ((List.mem_cons.mp hx).resolve_left hn)
  · intro x hx
    rw [holds] at hx
    split at hx
    · rename_i he
      exact .inr (by simp [he])
    · exact (o.only x hx).imp_right (List.mem_cons_of_mem _)
  · have hnd := List.nodup_cons.mp o.distinct
    simp only [List.nodup_cons, List.mem_cons, not_or]
    exact ⟨⟨fun he => hown he.symm, hnd.1⟩, hothers, hnd.2⟩
  · have := o.known
    simp [JobQueue.clonePublisher]
    omega

/-- When a handle is let go its owner is one of the others no longer. -/
theorem without (o : Owned q own others) {rest : List Nat}
    (hrest : ∀ x, x ∈ rest ↔ x ∈ others ∧ x ≠ handle) (hdistinct : (own :: rest).Nodup) :
    Owned (q.dropPublisher handle) own rest := by
  have holds (x : Nat) : (q.dropPublisher handle).holds x =
      if x = handle then false else q.holds x := holds_set q handle x
  constructor
  · intro x hx
    obtain ⟨hother, hne⟩ := (hrest x).mp hx
    rw [holds, if_neg hne]
    exact o.held x hother
  · intro x hx
    rw [holds] at hx
    split at hx
    · cases hx
    · rename_i hne
      exact (o.only x hx).imp_right fun h => (hrest x).mpr ⟨h, hne⟩
  · exact hdistinct
  · simpa [JobQueue.dropPublisher] using o.known

theorem drop (o : Owned q own (handle :: others)) : Owned (q.dropPublisher handle) own others := by
  have hnd : own ≠ handle ∧ own ∉ others ∧ handle ∉ others ∧ others.Nodup := by
    simpa [not_or, and_assoc] using o.distinct
  obtain ⟨-, hown, hgone, hn⟩ := hnd
  refine o.without (fun x => ?_) (List.nodup_cons.mpr ⟨hown, hn⟩)
  constructor
  · intro hx
    exact ⟨List.mem_cons_of_mem _ hx, fun he => hgone (he ▸ hx)⟩
  · rintro ⟨hx, hne⟩
    exact (List.mem_cons.mp hx).resolve_left hne

/-- The first owner lets go. -/
theorem release (o : Owned q own others) : Owned (q.dropPublisher own) own others := by
  have hown := (List.nodup_cons.mp o.distinct).1
  refine o.without (fun x => ?_) o.distinct
  exact ⟨fun hx => ⟨hx, fun he => hown (he ▸ hx)⟩, And.left⟩

/-- No handle is left exactly when everybody has let go. -/
theorem none_held_iff (o : Owned q own others) :
    (∀ handle, q.holds handle = false) ↔ q.holds own = false ∧ others = [] := by
  constructor
  · intro h
    refine ⟨h own, List.eq_nil_iff_forall_not_mem.mpr fun x hx => ?_⟩
    have := o.held x hx
    simp [h x] at this
  · rintro ⟨hown, rfl⟩ handle
    by_contra held
    rw [Bool.not_eq_false] at held
    rcases o.only handle held with rfl | hm
    · simp [hown] at held
    · cases hm

end Owned

end ImportWeights.Jobs
