import ImportWeights.Proofs.Fetch.Task

/-! # How a fetch ends

An accepted URL gives one job at the end of the queue, or none and an unchanged queue, and what
is told of it fits its outcome. A cloner that panics is the one way to fail that is never
told. -/

namespace ImportWeights.Fetch

open ImportWeights.Dispatch ImportWeights.Events ImportWeights.Files ImportWeights.Jobs

/-- Whether an event tells that a fetch has failed. -/
def isFetchFailure : Event → Bool
  | .fetch e => e.type = .failed
  | .scan _ => false

namespace FetchTask

variable {t : FetchTask} {cloner : Cloner} {p : Pipeline}

theorem answer_done_iff {status : CloneStatus} : t.answer cloner p.files = .done status ↔
    ∃ files, p.files.makeDirectories t.stagingDir = .ok files ∧
      (cloner.clone files t.url t.dest).1 = .done status := by
  cases made : p.files.makeDirectories t.stagingDir <;> simp [answer, made]

/-- An open queue takes the job of a clone that succeeded. -/
theorem run_taken {status : CloneStatus} (answer : t.answer cloner p.files = .done status)
    (h : p.queue.isClosed = false) :
    let job : Job := ⟨t.folder, t.url, p.queue.nextSequence⟩
    (t.run cloner p).1 = .queued job ∧ (t.run cloner p).2.queue = { p.queue with
      waiting := p.queue.waiting ++ [job], nextSequence := p.queue.nextSequence + 1
      pending := p.queue.pending + 1, handles := p.queue.handles.set t.handle false } := by
  obtain ⟨outcome, queue⟩ := run_done answer
  rw [JobQueue.offer_of_open h] at outcome queue
  exact ⟨outcome, queue⟩

/-- A closed queue refuses the job and stays as it is. -/
theorem run_refused {status : CloneStatus} (answer : t.answer cloner p.files = .done status)
    (h : p.queue.isClosed = true) :
    (t.run cloner p).1 = .notQueued (.closed t.folder) ∧
      (t.run cloner p).2.queue = p.queue.dropPublisher t.handle := by
  obtain ⟨outcome, queue⟩ := run_done answer
  rw [JobQueue.offer_of_closed h] at outcome queue
  exact ⟨outcome, queue⟩

/-- A task ends with a queued job exactly when its clone succeeded and the queue was open;
otherwise it only lets go of its handle. -/
theorem run_queued_iff (t : FetchTask) (cloner : Cloner) (p : Pipeline) :
    ((∃ job, (t.run cloner p).1 = .queued job) ↔
      (∃ status, t.answer cloner p.files = .done status) ∧ p.queue.isClosed = false) ∧
    ((∀ job, (t.run cloner p).1 ≠ .queued job) →
      (t.run cloner p).2.queue = p.queue.dropPublisher t.handle) := by
  cases answer : t.answer cloner p.files with
  | done status =>
    cases closed : p.queue.isClosed with
    | true => simp [run_refused answer closed]
    | false => simp [run_taken answer closed]
  | failed e => simp [run_failed answer]
  | panicked message => simp [run_panicked answer]

end FetchTask

variable (f : Fetcher) (p : Pipeline) (url : String) (task : FetchTask)

/-- For an accepted URL, whatever came between and whatever the files, the queue and the cloner
are by then: a job is queued exactly when the staging directory could be made, the cloner found
or made the checkout and the queue was open. Then it is the one new job, at the end of the
queue and under its next number; otherwise the queue has the jobs, the backlog and the next
number that it had. What was told is that the URL was accepted, then either why the fetch
failed, or which way the clone succeeded and after that, if so, that its job was queued. -/
theorem accepted_fetch_queues_one_job_or_none (accepted : (f.accept p url).1 = .ok task)
    (cloner : Cloner) (q : Pipeline) :
    let ended := task.run cloner q
    let job : Job := ⟨task.folder, Text.trim url, q.queue.nextSequence⟩
    ((∃ j, ended.1 = .queued j) ↔
      (∃ files status, q.files.makeDirectories f.config.stagingDir = .ok files ∧
        (cloner.clone files (Text.trim url) task.dest).1 = .done status) ∧
      q.queue.closed = false ∧ q.queue.hasConsumer = true) ∧
    (∀ j, ended.1 = .queued j → j = job ∧ ended.2.queue = { q.queue with
      waiting := q.queue.waiting ++ [job], nextSequence := q.queue.nextSequence + 1
      pending := q.queue.pending + 1, handles := q.queue.handles.set task.handle false }) ∧
    ((∀ j, ended.1 ≠ .queued j) → ended.2.queue.waiting = q.queue.waiting ∧
      ended.2.queue.pending = q.queue.pending ∧
      ended.2.queue.nextSequence = q.queue.nextSequence) ∧
    task.url = Text.trim url ∧
    p.Tells (f.accept p url).2 [.event (task.event .accepted none)] ∧
    (∀ e, task.answer cloner q.files = .failed e → ended.1 = .failed e ∧
      q.Tells ended.2 (task.calls q.files ++ [.event (task.event .failed (some e.message))])) ∧
    (∀ status, task.answer cloner q.files = .done status →
      q.Tells ended.2 (task.calls q.files ++ .event (task.event status.event none) ::
        match ended.1 with
        | .queued _ => [.event (task.event .queued none)]
        | _ => [])) := by
  intro ended job
  obtain ⟨-, trimmed, staging, -⟩ := Fetcher.accept_task accepted
  obtain ⟨queued, otherwise⟩ := task.run_queued_iff cloner q
  have told := task.run_tells cloner q
  refine ⟨?_, ?_, ?_, trimmed, Fetcher.accept_tells accepted, ?_, ?_⟩
  · simp only [ended, queued, FetchTask.answer_done_iff, staging, trimmed, JobQueue.isClosed,
      Bool.or_eq_false_iff, Bool.not_eq_false']
    rw [exists_comm]
  · intro j hj
    obtain ⟨⟨status, answer⟩, opened⟩ := queued.mp ⟨j, hj⟩
    obtain ⟨outcome, queue⟩ := FetchTask.run_taken answer opened
    rw [trimmed] at outcome queue
    exact ⟨FetchOutcome.queued.inj (hj.symm.trans outcome), queue⟩
  · intro h
    rw [otherwise h]
    exact ⟨rfl, rfl, rfl⟩
  · intro e answer
    rw [answer] at told
    exact ⟨(FetchTask.run_failed answer).1, told⟩
  · intro status answer
    rw [answer, FetchTask.story] at told
    cases closed : q.queue.isClosed with
    | true => simpa [ended, FetchTask.run_refused answer closed, closed] using told
    | false => simpa [ended, FetchTask.run_taken answer closed, closed] using told

def sampleFetcher : Fetcher := ⟨⟨⟨[]⟩, "github.com", .segment⟩, "git", 0⟩

def samplePipeline : Pipeline := .start ⟨.emptyDir, []⟩ .fresh

def sampleTask : FetchTask := ⟨"git@github.com:o/r", "r", ⟨[]⟩, 1⟩

/-- Answers what it is made with and leaves the files alone. -/
def steadyCloner (answer : CloneAnswer) : Cloner := ⟨"git", fun files _ _ => (answer, files)⟩

theorem sampleTask_accepted :
    (sampleFetcher.accept samplePipeline " git@github.com:o/r").1 = .ok sampleTask := by
  rfl

theorem sampleTask_answer (answer : CloneAnswer) :
    sampleTask.answer (steadyCloner answer) samplePipeline.files = answer := by
  rfl

theorem sampleTask_calls :
    sampleTask.calls samplePipeline.files = [.cloneCall "git@github.com:o/r" ⟨[114]⟩] := by
  decide +kernel

/-- The URL comes with a blank, and the checkout was there before. -/
theorem accepted_fetch_queues_one_job_or_none_present :
    let url := " git@github.com:o/r"
    let ended := sampleTask.run (steadyCloner (.done .alreadyExists)) samplePipeline
    (sampleFetcher.accept samplePipeline url).1 = .ok sampleTask ∧
    ended.1 = .queued ⟨"r", "git@github.com:o/r", 1⟩ ∧
    ended.2.queue.waiting = [⟨"r", "git@github.com:o/r", 1⟩] ∧
    samplePipeline.Tells ended.2 ([.cloneCall "git@github.com:o/r" ⟨[114]⟩] ++
      [.event (sampleTask.event .alreadyPresent none), .event (sampleTask.event .queued none)]) := by
  intro url ended
  obtain ⟨queued, job, -, trimmed, -, -, told⟩ := accepted_fetch_queues_one_job_or_none sampleFetcher
    samplePipeline url sampleTask sampleTask_accepted (steadyCloner (.done .alreadyExists))
    samplePipeline
  obtain ⟨j, hj⟩ := queued.mpr ⟨⟨_, _, rfl, rfl⟩, rfl, rfl⟩
  obtain ⟨rfl, queue⟩ := job j hj
  have told := told .alreadyExists (sampleTask_answer _)
  rw [hj, sampleTask_calls] at told
  rw [← trimmed] at hj queue
  exact ⟨sampleTask_accepted, hj, congrArg JobQueue.waiting queue, told⟩

variable {f p url task}

/-- A fetch that was accepted and has failed was told as failed exactly once, with the URL, the
folder and the text of its error, unless the cloner panicked: then its end was never told. -/
theorem failed_fetch_is_told_iff (accepted : (f.accept p url).1 = .ok task) (cloner : Cloner)
    (q : Pipeline) (e : CloneError) (failed : (task.run cloner q).1 = .failed e) :
    ∃ before added, p.Tells (f.accept p url).2 before ∧ q.Tells (task.run cloner q).2 added ∧
      ((told (before ++ added)).filter isFetchFailure =
          [.fetch ⟨.failed, Text.trim url, some task.folder, some e.message⟩] ↔
        ∀ message, task.answer cloner q.files ≠ .panicked message) ∧
      (∀ message, task.answer cloner q.files = .panicked message →
        e = .task message ∧ told added = []) := by
  obtain ⟨-, trimmed, -, -⟩ := Fetcher.accept_task accepted
  have calls : told (task.calls q.files) = [] := by
    unfold FetchTask.calls
    split <;> rfl
  refine ⟨_, _, Fetcher.accept_tells accepted, task.run_tells cloner q, ?_⟩
  simp only [told_append, told_events, calls, List.nil_append]
  cases answer : task.answer cloner q.files with
  | done status =>
    cases closed : q.queue.isClosed with
    | true => simp [FetchTask.run_refused answer closed] at failed
    | false => simp [FetchTask.run_taken answer closed] at failed
  | failed cause =>
    obtain rfl : cause = e :=
      FetchOutcome.failed.inj ((FetchTask.run_failed answer).1.symm.trans failed)
    simp [FetchTask.story, FetchTask.event, isFetchFailure, told, Occurrence.event?, trimmed]
  | panicked message =>
    obtain rfl : .task message = e :=
      FetchOutcome.failed.inj ((FetchTask.run_panicked answer).1.symm.trans failed)
    simp [FetchTask.story, FetchTask.event, isFetchFailure, told, Occurrence.event?]

/-- The program that clones was started and ended with an error. -/
theorem failed_fetch_is_told_iff_refused :
    let cause : CloneError := .command "exit status: 128" "not found"
    let ended := sampleTask.run (steadyCloner (.failed cause)) samplePipeline
    (sampleFetcher.accept samplePipeline " git@github.com:o/r").1 = .ok sampleTask ∧
    ended.1 = .failed cause ∧ ∃ before added,
      samplePipeline.Tells (sampleFetcher.accept samplePipeline " git@github.com:o/r").2 before ∧
      samplePipeline.Tells ended.2 added ∧
      (told (before ++ added)).filter isFetchFailure = [.fetch ⟨.failed, "git@github.com:o/r",
        some "r", some "git clone exited with exit status: 128: not found"⟩] := by
  intro cause ended
  have failed : ended.1 = .failed cause := rfl
  obtain ⟨before, added, accepted, ran, told, -⟩ := failed_fetch_is_told_iff sampleTask_accepted
    (steadyCloner (.failed cause)) samplePipeline cause failed
  obtain ⟨-, trimmed, -, -⟩ := Fetcher.accept_task sampleTask_accepted
  have once := told.mpr (by simp [sampleTask_answer])
  rw [← trimmed] at once
  exact ⟨sampleTask_accepted, failed, before, added, accepted, ran, once⟩

/-- A cloner that panics ends a fetch as failed, and no failure is told. -/
theorem panicking_cloner_fails_untold :
    ¬ ∀ (f : Fetcher) (p : Pipeline) (url : String) (task : FetchTask),
      (f.accept p url).1 = .ok task → ∀ (cloner : Cloner) (q : Pipeline) (e : CloneError),
        (task.run cloner q).1 = .failed e → ∃ added, q.Tells (task.run cloner q).2 added ∧
          (told added).filter isFetchFailure =
            [.fetch ⟨.failed, Text.trim url, some task.folder, some e.message⟩] := by
  intro h
  obtain ⟨added, tells, failure⟩ := h sampleFetcher samplePipeline " git@github.com:o/r" sampleTask
    sampleTask_accepted (steadyCloner (.panicked "out of memory")) samplePipeline _ rfl
  have ran := sampleTask.run_tells (steadyCloner (.panicked "out of memory")) samplePipeline
  have same := List.append_cancel_left (tells.history.symm.trans ran.history)
  rw [same] at failure
  exact absurd failure (by decide)

end ImportWeights.Fetch
