import Mathlib.Logic.Basic
import Mathlib.Tactic.ByContra
import ImportWeights.Proofs.Jobs.Run

/-! # No job is lost or made up by the queue

Three invariants are kept by every operation: who may still use the queue, which publisher
handles are left, and where the accepted jobs are. Each is proved for one step from what
the step can do (`Effect`), and then for whole runs. The main statement,
`queue_conserves_jobs`, reads the jobs and their numbers off the answers alone. -/

namespace ImportWeights.Jobs

variable {mark : Nat} {past : List Step} {q : JobQueue} {op : Operation} {reply : Reply}

/-! ## Who may still use the queue -/

/-- The two ends of the queue, as far as the past tells. -/
structure Ends (past : List Step) (q : JobQueue) : Prop where
  closed : q.closed = true ↔ CloseCalled past
  consumer : q.hasConsumer = true ↔ ¬ ConsumerDropped past

theorem Ends.isClosed (e : Ends past q) :
    q.isClosed = true ↔ CloseCalled past ∨ ConsumerDropped past := by
  have hc : q.hasConsumer = false ↔ ConsumerDropped past := by
    rw [← Bool.not_eq_true, e.consumer, not_not]
  simp [JobQueue.isClosed, e.closed, hc]

theorem Ends.start : Ends [] (.withHighWaterMark mark) := by
  constructor <;> simp [JobQueue.withHighWaterMark, CloseCalled, ConsumerDropped]

theorem Ends.step (e : Ends past q) (h : Effect q op reply) :
    Ends (past ++ [⟨q, op, reply⟩]) reply.queue := by
  obtain ⟨closed, consumer⟩ := e
  cases h with
  | accepted | refused | cloned | dropped => constructor <;> simpa
  | took _ _ asked | foundNone _ _ asked =>
    obtain ⟨rfl, rfl⟩ | ⟨rfl, rfl⟩ := asked <;> constructor <;> simpa
  | closed => exact ⟨by simp, by simpa⟩
  | consumerDropped => exact ⟨by simpa, by simp⟩

/-! ## Publisher handles -/

theorem holds_append (q : JobQueue) (b : Bool) (handle : Nat) :
    ({ q with handles := q.handles ++ [b] } : JobQueue).holds handle =
      if handle = q.handles.length then b else q.holds handle := by
  simp only [JobQueue.holds, List.getD_eq_getElem?_getD]
  rcases Nat.lt_trichotomy handle q.handles.length with hl | he | hg
  · rw [List.getElem?_append_left hl, if_neg (by omega)]
  · simp [he]
  · rw [List.getElem?_eq_none (by simp; omega), List.getElem?_eq_none (by omega),
      if_neg (by omega)]

theorem holds_set (q : JobQueue) (dropped handle : Nat) :
    ({ q with handles := q.handles.set dropped false } : JobQueue).holds handle =
      if handle = dropped then false else q.holds handle := by
  simp only [JobQueue.holds, List.getD_eq_getElem?_getD, List.getElem?_set]
  split
  · subst_vars; split <;> simp
  · rw [if_neg (by omega)]

theorem lt_of_holds {handle : Nat} (h : q.holds handle = true) : handle < q.handles.length := by
  simp only [JobQueue.holds, List.getD_eq_getElem?_getD] at h
  by_contra hn
  rw [List.getElem?_eq_none (by omega)] at h
  cases h

/-- A queue has a publisher as long as some handle is held. -/
theorem hasPublisher_iff : q.hasPublisher = true ↔ ∃ handle, q.holds handle = true := by
  simp only [JobQueue.hasPublisher, List.any_eq_true, id_eq, exists_eq_right]
  constructor
  · intro h
    obtain ⟨i, hi⟩ := List.mem_iff_getElem?.mp h
    exact ⟨i, by simp [JobQueue.holds, List.getD_eq_getElem?_getD, hi]⟩
  · rintro ⟨i, hi⟩
    have hl := lt_of_holds hi
    simp only [JobQueue.holds, List.getD_eq_getElem?_getD, List.getElem?_eq_getElem hl,
      Option.getD_some] at hi
    exact hi ▸ List.getElem_mem hl

/-- The handles that are held are the ones that are left, and no number was dropped before
it was given out. -/
structure Handles (past : List Step) (q : JobQueue) : Prop where
  holds : ∀ handle, q.holds handle = true ↔ HandleLeft past handle
  unborn : ∀ s ∈ past, ∀ handle, s.operation = .dropPublisher handle → handle < q.handles.length

theorem Handles.hasPublisher (t : Handles past q) :
    q.hasPublisher = true ↔ ∃ handle, HandleLeft past handle := by
  simp [hasPublisher_iff, t.holds]

theorem Handles.start : Handles [] (.withHighWaterMark mark) := by
  refine ⟨fun handle => ?_, by simp⟩
  cases handle <;> simp [JobQueue.withHighWaterMark, JobQueue.holds, HandleLeft]

theorem handleLeft_append_one {s : Step} {handle : Nat} :
    HandleLeft (past ++ [s]) handle ↔
      ((handle = 0 ∨ ∃ s ∈ past, s.reply.answer = .cloned handle) ∨
        s.reply.answer = .cloned handle) ∧
      (∀ s ∈ past, s.operation ≠ .dropPublisher handle) ∧ s.operation ≠ .dropPublisher handle := by
  simp [HandleLeft, or_and_right, exists_or, or_assoc, forall_and, or_imp]

/-- A step that neither makes nor drops a handle leaves them as they were. -/
theorem Handles.keep (t : Handles past q) {s : Step} (hh : s.reply.queue.handles = q.handles)
    (hc : ∀ handle, s.reply.answer ≠ .cloned handle)
    (hd : ∀ handle, s.operation ≠ .dropPublisher handle) :
    Handles (past ++ [s]) s.reply.queue := by
  constructor
  · intro handle
    have hq : s.reply.queue.holds handle = q.holds handle := by simp [JobQueue.holds, hh]
    rw [hq, t.holds, handleLeft_append_one]
    simp [hc handle, hd handle, HandleLeft]
  · intro s' hs' handle h
    rw [hh]
    rcases List.mem_append.mp hs' with hp | hl
    · exact t.unborn s' hp handle h
    · rw [List.mem_singleton.mp hl] at h
      exact absurd h (hd handle)

theorem Handles.step (t : Handles past q) (h : Effect q op reply) :
    Handles (past ++ [⟨q, op, reply⟩]) reply.queue := by
  cases h with
  | accepted | refused | closed | consumerDropped => exact t.keep rfl (by simp) (by simp)
  | took _ _ asked | foundNone _ _ asked =>
    obtain ⟨rfl, rfl⟩ | ⟨rfl, rfl⟩ := asked <;> exact t.keep rfl (by simp) (by simp)
  | cloned held =>
    constructor
    · intro handle
      rw [holds_append, handleLeft_append_one]
      by_cases hn : handle = q.handles.length
      · subst hn
        have hu : ∀ s ∈ past, s.operation ≠ .dropPublisher q.handles.length := fun s hs ho =>
          absurd (t.unborn s hs _ ho) (by omega)
        simpa using hu
      · have ha : q.handles.length ≠ handle := fun he => hn he.symm
        simp [hn, ha, t.holds, HandleLeft]
    · intro s hs handle ho
      rw [List.length_append]
      rcases List.mem_append.mp hs with hp | hl
      · have := t.unborn s hp handle ho
        omega
      · rw [List.mem_singleton.mp hl] at ho
        cases ho
  | @dropped dropped held =>
    constructor
    · intro handle
      rw [holds_set, handleLeft_append_one]
      by_cases hn : handle = dropped
      · simp [hn]
      · have hd : dropped ≠ handle := fun he => hn he.symm
        simp [hn, hd, t.holds, HandleLeft]
    · intro s hs handle ho
      rw [List.length_set]
      rcases List.mem_append.mp hs with hp | hl
      · exact t.unborn s hp handle ho
      · rw [List.mem_singleton.mp hl] at ho
        cases ho
        exact lt_of_holds held

/-! ## Where the accepted jobs are -/

/-- As long as the consumer is there, what was accepted was given out or waits, in that
order, and is counted. The numbers go on from 1 in any case. -/
structure Accounts (past : List Step) (q : JobQueue) : Prop where
  kept : q.hasConsumer = true → received past ++ q.waiting = accepted past
  counted : q.hasConsumer = true → q.pending = q.waiting.length
  numbered : (accepted past).map (·.sequence) = List.range' 1 (accepted past).length
  next : q.nextSequence = (accepted past).length + 1

theorem Accounts.start : Accounts [] (.withHighWaterMark mark) := by
  constructor <;> simp [JobQueue.withHighWaterMark, accepted, received]

/-- A step that puts nothing in and takes nothing out keeps the accounts. -/
theorem Accounts.keep (a : Accounts past q) {s : Step} (hi : s.accepted? = none)
    (ho : s.received? = none) (hc : s.reply.queue.hasConsumer = true → q.hasConsumer = true ∧
      s.reply.queue.waiting = q.waiting ∧ s.reply.queue.pending = q.pending)
    (hn : s.reply.queue.nextSequence = q.nextSequence) : Accounts (past ++ [s]) s.reply.queue := by
  constructor
  · intro h
    obtain ⟨consumer, hw, -⟩ := hc h
    simpa [hi, ho, hw] using a.kept consumer
  · intro h
    obtain ⟨consumer, hw, hp⟩ := hc h
    rw [hp, hw]
    exact a.counted consumer
  · simpa [hi] using a.numbered
  · simpa [hi, hn] using a.next

theorem Accounts.step (a : Accounts past q) (h : Effect q op reply) :
    Accounts (past ++ [⟨q, op, reply⟩]) reply.queue := by
  cases h with
  | @accepted handle folder url held isOpen =>
    constructor
    · intro consumer
      simpa [Step.accepted?, Step.received?, ← List.append_assoc] using a.kept consumer
    · intro consumer
      simpa using a.counted consumer
    · -- the number of the new job is one more than the number of jobs before it
      simp [Step.accepted?, a.numbered, a.next, List.range'_1_concat, Nat.add_comm 1]
    · simp [Step.accepted?, a.next]
  | refused | closed | cloned | dropped => exact a.keep rfl rfl (by simp) rfl
  | consumerDropped => exact a.keep rfl rfl (by simp) rfl
  | foundNone _ _ asked =>
    obtain ⟨rfl, rfl⟩ | ⟨rfl, rfl⟩ := asked
    · refine a.keep rfl ?_ (by simp) rfl
      by_cases none : (q.closed || !q.hasPublisher) = true <;> simp [Step.received?, none]
    · exact a.keep rfl rfl (by simp) rfl
  | @took op answer job rest consumer first asked =>
    have hi : (⟨q, op, ⟨answer, { q with waiting := rest, pending := q.pending - 1 }, []⟩⟩ :
        Step).accepted? = none := by
      obtain ⟨rfl, rfl⟩ | ⟨rfl, rfl⟩ := asked <;> rfl
    have ho : (⟨q, op, ⟨answer, { q with waiting := rest, pending := q.pending - 1 }, []⟩⟩ :
        Step).received? = some job := by
      obtain ⟨rfl, rfl⟩ | ⟨rfl, rfl⟩ := asked <;> rfl
    have hk := a.kept consumer
    have hp := a.counted consumer
    rw [first] at hk hp
    constructor
    · intro _
      simpa [hi, ho] using hk
    · intro _
      simp [hp]
    · simpa [hi] using a.numbered
    · simpa [hi] using a.next

/-! ## Whole runs -/

theorem Run.ends (run : Run mark past q) : Ends past q := by
  induction run with
  | start => exact .start
  | step _ h ih => exact ih.step (effect_of_perform h)

theorem Run.handles (run : Run mark past q) : Handles past q := by
  induction run with
  | start => exact .start
  | step _ h ih => exact ih.step (effect_of_perform h)

theorem Run.accounts (run : Run mark past q) : Accounts past q := by
  induction run with
  | start => exact .start
  | step _ h ih => exact ih.step (effect_of_perform h)

/-- With the consumer there, the wait is over without a job exactly when none will come. -/
theorem Run.recv_ended_iff (run : Run mark past q) (consumer : q.hasConsumer = true) :
    q.receive.1 = .ended ↔
      q.waiting = [] ∧ (CloseCalled past ∨ ∀ handle, ¬ HandleLeft past handle) := by
  have hp : q.hasPublisher = false ↔ ∀ handle, ¬ HandleLeft past handle := by
    rw [← Bool.not_eq_true, run.handles.hasPublisher, not_exists]
  cases hw : q.waiting with
  | nil => simp [JobQueue.receive, consumer, hw, run.ends.closed, hp, or_iff_not_imp_left]
  | cons job rest => simp [JobQueue.receive, consumer, hw]

/-- The first job that waits is given out, whether the consumer waits for it or only asks. -/
theorem Run.gives_first (run : Run mark past q) (consumer : q.hasConsumer = true) {job : Job}
    {rest : List Job} (waiting : q.waiting = job :: rest) :
    ∃ after : JobQueue, after.waiting = rest ∧ after.pending? = some rest.length ∧
      q.perform .recv = some ⟨.received (.job job), after, []⟩ ∧
      q.perform .tryRecv = some ⟨.polled (some job), after, []⟩ := by
  have given := JobQueue.receive_of_waiting consumer waiting
  have counted : q.pending = rest.length + 1 := by
    rw [run.accounts.counted consumer, waiting, List.length_cons]
  refine ⟨q.receive.2, by rw [given], ?_, ?_, ?_⟩
  · simp [given, JobQueue.pending?, consumer, counted]
  · simp [JobQueue.perform, consumer, given]
  · simp [JobQueue.perform, consumer, given, Received.job?]

/-- While the consumer is there, the jobs given out and the jobs that wait are together the
jobs whose publication succeeded, numbered from 1 as they were told. The first of those that
wait is given out next, and the wait for a job is over without one exactly when none waits
and none can come. At all times a publication is refused exactly if the consumer closed the
queue or is gone, and a refusal changes nothing. -/
theorem queue_conserves_jobs (run : Run mark past q) :
    (¬ ConsumerDropped past →
      received past ++ q.waiting = accepted past ∧
      (accepted past).map (·.sequence) = List.range' 1 (accepted past).length ∧
      q.pending? = some q.waiting.length ∧
      (∀ job rest, q.waiting = job :: rest →
        ∃ after : JobQueue, after.waiting = rest ∧ after.pending? = some rest.length ∧
          q.perform .recv = some ⟨.received (.job job), after, []⟩ ∧
          q.perform .tryRecv = some ⟨.polled (some job), after, []⟩) ∧
      ∃ reply, q.perform .recv = some reply ∧
        (reply.answer = .received .ended ↔
          q.waiting = [] ∧ (CloseCalled past ∨ ∀ handle, ¬ HandleLeft past handle))) ∧
    ∀ handle folder url, HandleLeft past handle →
      ∃ reply, q.perform (.publish handle folder url) = some reply ∧
        ((∃ e, reply.answer = .published (.error e)) ↔
          CloseCalled past ∨ ConsumerDropped past) ∧
        ∀ e, reply.answer = .published (.error e) → e = .closed folder ∧ reply.queue = q := by
  constructor
  · intro hd
    have consumer := run.ends.consumer.mpr hd
    refine ⟨run.accounts.kept consumer, run.accounts.numbered, ?_,
      fun _ _ waiting => run.gives_first consumer waiting, ?_⟩
    · simp [JobQueue.pending?, consumer, run.accounts.counted consumer]
    · refine ⟨⟨.received q.receive.1, q.receive.2, []⟩, by simp [JobQueue.perform, consumer], ?_⟩
      simpa using run.recv_ended_iff consumer
  · intro handle folder url left
    have held := (run.handles.holds handle).mpr left
    refine ⟨_, by simp [JobQueue.perform, JobQueue.publish, held]; rfl, ?_⟩
    rw [← run.ends.isClosed]
    cases hc : q.isClosed with
    | true => simp [JobQueue.offer_of_closed hc, Except.map, eq_comm]
    | false => simp [JobQueue.offer_of_open hc, Except.map]

/-- A handle made before the closing is refused after it, and the job from before is still
given out. -/
theorem queue_conserves_jobs_closed_early : ∃ past q, Run 64 past q ∧
    past.map (·.operation) = [.publish 0 "a" "u", .clonePublisher 0, .close, .recv] ∧
    accepted past = [⟨"a", "u", 1⟩] ∧ received past = [⟨"a", "u", 1⟩] ∧ q.waiting = [] ∧
    ∃ reply, q.perform (.publish 1 "b" "v") = some reply ∧
      ∃ e, reply.answer = .published (.error e) := by
  have one := Run.start.step (show (JobQueue.withHighWaterMark 64).perform
    (.publish 0 "a" "u") = some _ from rfl)
  have two := one.step (show JobQueue.perform _ (.clonePublisher 0) = some _ from rfl)
  have three := two.step (show JobQueue.perform _ .close = some _ from rfl)
  obtain ⟨whileThere, -⟩ := queue_conserves_jobs three
  obtain ⟨-, -, -, first, -⟩ := whileThere (by simp [ConsumerDropped])
  obtain ⟨_, empty, -, given, -⟩ := first ⟨"a", "u", 1⟩ [] rfl
  have run := three.step given
  obtain ⟨-, always⟩ := queue_conserves_jobs run
  obtain ⟨reply, performed, refused, -⟩ := always 1 "b" "v" (by simp [HandleLeft]; rfl)
  exact ⟨_, _, run, rfl, rfl, rfl, empty, reply, performed,
    refused.mpr (.inl (by simp [CloseCalled]))⟩

end ImportWeights.Jobs
