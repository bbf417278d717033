import ImportWeights.Proofs.Jobs.Run

/-! # The backlog warning

The warning is given when the count of the jobs that wait comes to the mark. Only a publication
that succeeds raises the count, and it raises it by one, so the count never passes over the mark:
there are as many warnings as times that it rose from below the mark, whatever else was done. -/

namespace ImportWeights.Jobs

open ImportWeights.Logging

/-- The backlog was below the mark before a step and is not below it after the step. -/
def Step.Crosses (mark : Nat) (s : Step) : Prop :=
  s.before.pending < mark ∧ mark ≤ s.reply.queue.pending

instance (mark : Nat) : DecidablePred (Step.Crosses mark) := fun _ =>
  inferInstanceAs (Decidable (_ ∧ _))

/-- How often the backlog rose from below the mark. -/
def crossings (mark : Nat) (steps : List Step) : Nat := steps.countP (·.Crosses mark)

/-- All that was logged, in that order. -/
def logged (steps : List Step) : Log := steps.flatMap (·.reply.log)

variable {mark : Nat} {past : List Step} {q : JobQueue} {op : Operation} {reply : Reply}

theorem logged_append_one (steps : List Step) (s : Step) :
    logged (steps ++ [s]) = logged steps ++ s.reply.log := by
  simp [logged]

theorem crossings_append_one (mark : Nat) (steps : List Step) (s : Step) :
    crossings mark (steps ++ [s]) = crossings mark steps + if s.Crosses mark then 1 else 0 := by
  simp [crossings, List.countP_singleton]

/-! ## One step -/

/-- Only a publication that succeeds raises the backlog, and it raises it by one. -/
theorem Effect.pending (h : Effect q op reply) :
    reply.queue.pending ≤ q.pending ∨
      (∃ handle folder url, op = .publish handle folder url) ∧
        reply.answer = .published (.ok q.nextSequence) ∧
        reply.queue.pending = q.pending + 1 := by
  cases h with
  | accepted => exact .inr ⟨⟨_, _, _, rfl⟩, rfl, rfl⟩
  | took => exact .inl (Nat.sub_le _ _)
  | refused | cloned | dropped | foundNone | closed | consumerDropped => exact .inl (Nat.le_refl _)

/-- The backlog never passes over the mark. -/
theorem Effect.crosses_iff (h : Effect q op reply) :
    Step.Crosses mark ⟨q, op, reply⟩ ↔ q.pending < mark ∧ reply.queue.pending = mark := by
  have rise := h.pending
  simp only [Step.Crosses]
  omega

theorem Effect.log (h : Effect q op reply) :
    reply.log = if q.pending < q.highWaterMark ∧ reply.queue.pending = q.highWaterMark then
      [JobQueue.backlogWarning q.highWaterMark] else [] := by
  cases h with
  | accepted =>
    by_cases reached : q.pending + 1 = q.highWaterMark
    · have below : q.pending < q.highWaterMark := by omega
      simp [reached, below]
    · simp [reached]
  | took =>
    have behind : ¬ (q.pending < q.highWaterMark ∧ q.pending - 1 = q.highWaterMark) := by omega
    exact (if_neg behind).symm
  | refused | cloned | dropped | foundNone | closed | consumerDropped =>
    have same : ¬ (q.pending < q.highWaterMark ∧ q.pending = q.highWaterMark) := by omega
    exact (if_neg same).symm

theorem Effect.highWaterMark (h : Effect q op reply) :
    reply.queue.highWaterMark = q.highWaterMark := by
  cases h <;> rfl

/-! ## Whole runs -/

theorem Run.highWaterMark (run : Run mark past q) : q.highWaterMark = mark := by
  induction run with
  | start => rfl
  | step _ h ih => exact (effect_of_perform h).highWaterMark.trans ih

/-- What a run logs are warnings about the mark, one for each time that the backlog crossed it. -/
theorem Run.logged_eq (run : Run mark past q) :
    logged past = List.replicate (crossings mark past) (JobQueue.backlogWarning mark) := by
  induction run with
  | start => rfl
  | @step past q op reply run h ih =>
    have effect := effect_of_perform h
    have log := effect.log
    rw [run.highWaterMark] at log
    rw [logged_append_one, crossings_append_one, ih, log]
    by_cases crossed : Step.Crosses mark ⟨q, op, reply⟩
    · rw [if_pos (effect.crosses_iff.mp crossed), if_pos crossed, List.replicate_succ']
    · rw [if_neg (mt effect.crosses_iff.mpr crossed), if_neg crossed, List.append_nil, Nat.add_zero]

/-- In every state that a queue can come to, a publication is warned about exactly if it succeeds
and the backlog rises from below the mark to it. What a run has logged are such warnings alone, as
many as times that its backlog rose from below the mark, and each time it rose to the mark. -/
theorem backlog_is_warned_about_once_per_crossing (run : Run mark past q) :
    (∀ handle folder url reply, q.perform (.publish handle folder url) = some reply →
      ((∃ depth, JobQueue.backlogWarning depth ∈ reply.log) ↔
        (∃ n, reply.answer = .published (.ok n)) ∧
          q.pending < mark ∧ reply.queue.pending = mark)) ∧
    logged past = List.replicate (crossings mark past) (JobQueue.backlogWarning mark) ∧
    ∀ s ∈ past, s.Crosses mark → s.reply.queue.pending = mark := by
  refine ⟨?_, run.logged_eq, fun s hs crossed => ((run.effects s hs).crosses_iff.mp crossed).2⟩
  intro handle folder url reply performed
  have effect := effect_of_perform performed
  have log := effect.log
  rw [run.highWaterMark] at log
  constructor
  · rintro ⟨depth, warned⟩
    rw [log] at warned
    split at warned
    · rename_i reached
      obtain lower | ⟨-, accepted, -⟩ := effect.pending
      · omega
      · exact ⟨⟨_, accepted⟩, reached⟩
    · cases warned
  · rintro ⟨-, reached⟩
    exact ⟨mark, by rw [log, if_pos reached]; exact List.mem_singleton_self _⟩

/-- The backlog comes to the mark twice, with a job taken out in between, and the queue is closed
before a third publication. -/
theorem backlog_is_warned_about_once_per_crossing_again : ∃ past q, Run 1 past q ∧
    past.map (·.operation) = [.publish 0 "a" "u", .recv, .publish 0 "b" "v", .tryRecv, .close] ∧
    logged past = [JobQueue.backlogWarning 1, JobQueue.backlogWarning 1] ∧
    ∃ reply, q.perform (.publish 0 "c" "w") = some reply ∧
      ¬ ∃ depth, JobQueue.backlogWarning depth ∈ reply.log := by
  have one := Run.start.step (show (JobQueue.withHighWaterMark 1).perform
    (.publish 0 "a" "u") = some _ from rfl)
  have two := one.step (show JobQueue.perform _ .recv = some _ from rfl)
  have three := two.step (show JobQueue.perform _ (.publish 0 "b" "v") = some _ from rfl)
  have four := three.step (show JobQueue.perform _ .tryRecv = some _ from rfl)
  have run := four.step (show JobQueue.perform _ .close = some _ from rfl)
  obtain ⟨each, all, -⟩ := backlog_is_warned_about_once_per_crossing run
  refine ⟨_, _, run, rfl, all, ?_⟩
  refine ⟨_, rfl, fun warned => ?_⟩
  obtain ⟨⟨n, accepted⟩, -⟩ := (each 0 "c" "w" _ rfl).mp warned
  cases accepted

end ImportWeights.Jobs
