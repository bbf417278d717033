import ImportWeights.Jobs.Queue

/-! Runs of a queue. Its users publish, make and drop publisher handles, receive, close
and drop the consumer, in any order; only what they hold can be used. A run is kept with
every answer that was given, so what went in and what came out can be read off it without
looking into the queue. -/

namespace ImportWeights.Jobs

open ImportWeights.Logging

/-- What a user of the queue can do. A publisher handle goes by its number. -/
inductive Operation where
  | publish (handle : Nat) (folder url : String)
  | clonePublisher (handle : Nat)
  | dropPublisher (handle : Nat)
  /-- Waits for the next job; looking at it once tells whether the wait is over. -/
  | recv
  /-- Asks for the next job without waiting. -/
  | tryRecv
  | close
  | dropConsumer
deriving DecidableEq, Repr

inductive Answer where
  /-- The number the job was given. -/
  | published (result : Except QueueError Nat)
  | cloned (handle : Nat)
  | received (received : Received)
  | polled (job : Option Job)
  | done

structure Reply where
  answer : Answer
  queue : JobQueue
  log : Log

namespace JobQueue

/-- Carries an operation out, unless the handle or the consumer it needs is gone. -/
def perform (q : JobQueue) : Operation → Option Reply
  | .publish handle folder url => (q.publish handle folder url).map fun p =>
    ⟨.published (p.answer.map (·.sequence)), p.queue, p.log⟩
  | .clonePublisher handle =>
    if q.holds handle then
      some ⟨.cloned (q.clonePublisher handle).1, (q.clonePublisher handle).2, []⟩
    else none
  | .dropPublisher handle =>
    if q.holds handle then some ⟨.done, q.dropPublisher handle, []⟩ else none
  | .recv => if q.hasConsumer then some ⟨.received q.receive.1, q.receive.2, []⟩ else none
  | .tryRecv =>
    if q.hasConsumer then some ⟨.polled q.receive.1.job?, q.receive.2, []⟩ else none
  | .close => if q.hasConsumer then some ⟨.done, q.close, []⟩ else none
  | .dropConsumer => if q.hasConsumer then some ⟨.done, q.dropConsumer, []⟩ else none

end JobQueue

/-- An operation that was carried out, with the queue it found. -/
structure Step where
  before : JobQueue
  operation : Operation
  reply : Reply

/-- The steps that lead from a new queue to the given one. -/
inductive Run (mark : Nat) : List Step → JobQueue → Prop where
  | start : Run mark [] (.withHighWaterMark mark)
  | step {past : List Step} {q : JobQueue} {op : Operation} {reply : Reply} :
      Run mark past q → q.perform op = some reply →
      Run mark (past ++ [⟨q, op, reply⟩]) reply.queue

/-- The job that a step put into the queue, under the number that it answered. -/
def Step.accepted? (s : Step) : Option Job :=
  match s.operation, s.reply.answer with
  | .publish _ folder url, .published (.ok n) => some ⟨folder, url, n⟩
  | _, _ => none

/-- The job that a step took out of the queue. -/
def Step.received? (s : Step) : Option Job :=
  match s.reply.answer with
  | .received (.job job) => some job
  | .polled job => job
  | _ => none

/-- The jobs whose publication succeeded, in that order. -/
def accepted (steps : List Step) : List Job := steps.filterMap Step.accepted?

/-- The jobs that were given out, in that order. -/
def received (steps : List Step) : List Job := steps.filterMap Step.received?

def CloseCalled (steps : List Step) : Prop := ∃ s ∈ steps, s.operation = .close

def ConsumerDropped (steps : List Step) : Prop := ∃ s ∈ steps, s.operation = .dropConsumer

/-- A handle is left if it was there from the start or was made, and was never dropped. -/
def HandleLeft (steps : List Step) (handle : Nat) : Prop :=
  (handle = 0 ∨ ∃ s ∈ steps, s.reply.answer = .cloned handle) ∧
    ∀ s ∈ steps, s.operation ≠ .dropPublisher handle

section Append

variable {steps : List Step} {s : Step}

@[simp] theorem accepted_append_one :
    accepted (steps ++ [s]) = accepted steps ++ s.accepted?.toList := by
  cases h : s.accepted? <;> simp [accepted, h]

@[simp] theorem received_append_one :
    received (steps ++ [s]) = received steps ++ s.received?.toList := by
  cases h : s.received? <;> simp [received, h]

@[simp] theorem closeCalled_append_one :
    CloseCalled (steps ++ [s]) ↔ CloseCalled steps ∨ s.operation = .close := by
  simp [CloseCalled, or_and_right, exists_or]

@[simp] theorem consumerDropped_append_one :
    ConsumerDropped (steps ++ [s]) ↔ ConsumerDropped steps ∨ s.operation = .dropConsumer := by
  simp [ConsumerDropped, or_and_right, exists_or]

end Append

/-- All that one operation can do to a queue, and what has to hold for it. -/
inductive Effect (q : JobQueue) : Operation → Reply → Prop where
  | accepted {handle : Nat} {folder url : String} (held : q.holds handle = true)
      (isOpen : q.isClosed = false) :
      Effect q (.publish handle folder url)
        ⟨.published (.ok q.nextSequence),
          { q with
            waiting := q.waiting ++ [⟨folder, url, q.nextSequence⟩]
            nextSequence := q.nextSequence + 1, pending := q.pending + 1 },
          if q.pending + 1 = q.highWaterMark then [JobQueue.backlogWarning (q.pending + 1)]
          else []⟩
  | refused {handle : Nat} {folder url : String} (held : q.holds handle = true)
      (isClosed : q.isClosed = true) :
      Effect q (.publish handle folder url) ⟨.published (.error (.closed folder)), q, []⟩
  | cloned {handle : Nat} (held : q.holds handle = true) :
      Effect q (.clonePublisher handle)
        ⟨.cloned q.handles.length, { q with handles := q.handles ++ [true] }, []⟩
  | dropped {handle : Nat} (held : q.holds handle = true) :
      Effect q (.dropPublisher handle)
        ⟨.done, { q with handles := q.handles.set handle false }, []⟩
  | took {op : Operation} {answer : Answer} {job : Job} {rest : List Job}
      (consumer : q.hasConsumer = true) (first : q.waiting = job :: rest)
      (asked : op = .recv ∧ answer = .received (.job job) ∨
        op = .tryRecv ∧ answer = .polled (some job)) :
      Effect q op ⟨answer, { q with waiting := rest, pending := q.pending - 1 }, []⟩
  | foundNone {op : Operation} {answer : Answer}
      (consumer : q.hasConsumer = true) (empty : q.waiting = [])
      (asked : op = .recv ∧ answer = .received
          (if q.closed || !q.hasPublisher then .ended else .nothingYet) ∨
        op = .tryRecv ∧ answer = .polled none) :
      Effect q op ⟨answer, q, []⟩
  | closed (consumer : q.hasConsumer = true) :
      Effect q .close ⟨.done, { q with closed := true }, []⟩
  | consumerDropped (consumer : q.hasConsumer = true) :
      Effect q .dropConsumer ⟨.done, { q with hasConsumer := false, waiting := [] }, []⟩

theorem effect_of_receive {q : JobQueue} {op : Operation} {answer : Received → Answer}
    (consumer : q.hasConsumer = true)
    (asked : op = .recv ∧ answer = .received ∨ op = .tryRecv ∧ answer = .polled ∘ Received.job?) :
    Effect q op ⟨answer q.receive.1, q.receive.2, []⟩ := by
  cases hw : q.waiting with
  | nil =>
    have hr : q.receive = (if q.closed || !q.hasPublisher then .ended else .nothingYet, q) := by
      simp [JobQueue.receive, consumer, hw]
    rw [hr]
    refine .foundNone consumer hw ?_
    obtain ⟨rfl, rfl⟩ | ⟨rfl, rfl⟩ := asked
    · exact .inl ⟨rfl, rfl⟩
    · refine .inr ⟨rfl, ?_⟩
      simp only [Function.comp_apply]
      split <;> rfl
  | cons job rest =>
    have hr : q.receive = (.job job, { q with waiting := rest, pending := q.pending - 1 }) := by
      simp [JobQueue.receive, consumer, hw]
    rw [hr]
    refine .took consumer hw ?_
    obtain ⟨rfl, rfl⟩ | ⟨rfl, rfl⟩ := asked
    · exact .inl ⟨rfl, rfl⟩
    · exact .inr ⟨rfl, rfl⟩

theorem effect_of_perform {q : JobQueue} {op : Operation} {reply : Reply}
    (h : q.perform op = some reply) : Effect q op reply := by
  cases op with
  | publish handle folder url =>
    simp only [JobQueue.perform, JobQueue.publish] at h
    split at h
    · rename_i held
      cases hc : q.isClosed with
      | true =>
        rw [JobQueue.offer_of_closed hc] at h
        cases h
        exact .refused held hc
      | false =>
        rw [JobQueue.offer_of_open hc] at h
        cases h
        exact .accepted held hc
    · cases h
  | clonePublisher handle =>
    simp only [JobQueue.perform, JobQueue.clonePublisher] at h
    split at h
    · rename_i held
      rw [held] at h
      cases h
      exact .cloned held
    · cases h
  | dropPublisher handle =>
    simp only [JobQueue.perform, JobQueue.dropPublisher] at h
    split at h
    · rename_i held
      cases h
      exact .dropped held
    · cases h
  | recv =>
    simp only [JobQueue.perform] at h
    split at h
    · rename_i consumer
      cases h
      exact effect_of_receive consumer (.inl ⟨rfl, rfl⟩)
    · cases h
  | tryRecv =>
    simp only [JobQueue.perform] at h
    split at h
    · rename_i consumer
      cases h
      exact effect_of_receive consumer (.inr ⟨rfl, rfl⟩)
    · cases h
  | close =>
    simp only [JobQueue.perform, JobQueue.close] at h
    split at h
    · rename_i consumer
      cases h
      exact .closed consumer
    · cases h
  | dropConsumer =>
    simp only [JobQueue.perform, JobQueue.dropConsumer] at h
    split at h
    · rename_i consumer
      cases h
      exact .consumerDropped consumer
    · cases h

/-- Every step of a run is one of the effects. -/
theorem Run.effects {mark : Nat} {past : List Step} {q : JobQueue} (run : Run mark past q) :
    ∀ s ∈ past, Effect s.before s.operation s.reply := by
  induction run with
  | start => simp
  | step _ h ih =>
    intro s hs
    obtain earlier | last := List.mem_append.mp hs
    · exact ih s earlier
    · rw [List.mem_singleton.mp last]
      exact effect_of_perform h

end ImportWeights.Jobs
