import ImportWeights.Jobs.Job
import ImportWeights.Logging.Entry

/-! The queue between fetching and scanning: any number of publisher handles, one
consumer. Publishing never waits. A queue that was closed still gives out what it holds;
one whose consumer is gone takes and gives nothing. -/

namespace ImportWeights.Jobs

open ImportWeights.Logging

inductive QueueError where
  | closed (folder : String)
deriving DecidableEq, Repr

def QueueError.message : QueueError → String
  | closed folder => "Job queue is closed; job '" ++ folder ++ "' was not queued"

/-- `pending` counts the jobs published and not yet received; it outlives the consumer,
which takes the waiting jobs with it. `handles` says of every publisher handle ever made
whether it is still held. -/
structure JobQueue where
  waiting : List Job
  nextSequence : Nat
  pending : Nat
  highWaterMark : Nat
  closed : Bool
  hasConsumer : Bool
  handles : List Bool
deriving DecidableEq, Repr

/-- The answer to a publication, the queue after it, and what was logged. -/
structure Publication where
  answer : Except QueueError Job
  queue : JobQueue
  log : Log

/-- What asking for the next job gives. -/
inductive Received where
  | job (job : Job)
  /-- No job waits and none will come. -/
  | ended
  /-- No job waits yet. -/
  | nothingYet
  | noConsumer
deriving DecidableEq, Repr

def Received.job? : Received → Option Job
  | job j => some j
  | _ => none

namespace JobQueue

def defaultHighWaterMark : Nat := 64

/-- An empty queue with one publisher handle. -/
def withHighWaterMark (mark : Nat) : JobQueue :=
  { waiting := [], nextSequence := 1, pending := 0, highWaterMark := mark, closed := false,
    hasConsumer := true, handles := [true] }

def fresh : JobQueue := withHighWaterMark defaultHighWaterMark

/-- Whether the queue takes no more jobs. -/
def isClosed (q : JobQueue) : Bool := q.closed || !q.hasConsumer

def holds (q : JobQueue) (handle : Nat) : Bool := q.handles.getD handle false

/-- Whether any publisher handle is left. -/
def hasPublisher (q : JobQueue) : Bool := q.handles.any id

/-- The warning that goes with reaching the mark. -/
def backlogWarning (depth : Nat) : LogEntry :=
  warn (.queue 48) ("Job backlog reached " ++ toString depth ++
    " pending scans; clones are completing faster than scans")

/-- Hands a job over, unless nobody will take it. -/
def send (q : JobQueue) (job : Job) : Option JobQueue :=
  if q.isClosed then none else some { q with waiting := q.waiting ++ [job] }

/-- Puts a job at the end, under the next number. A job is counted before it is handed
over, so the count has to be taken back if it is refused; its number is then still free. -/
def offer (q : JobQueue) (folder url : String) : Publication :=
  let job : Job := ⟨folder, url, q.nextSequence⟩
  let counted : JobQueue := { q with pending := q.pending + 1 }
  match counted.send job with
  | none => ⟨.error (.closed job.folder), { counted with pending := counted.pending - 1 }, []⟩
  | some sent =>
    { answer := .ok job
      queue := { sent with nextSequence := sent.nextSequence + 1 }
      log := if counted.pending = q.highWaterMark then [backlogWarning counted.pending] else [] }

theorem offer_of_closed {q : JobQueue} (h : q.isClosed = true) (folder url : String) :
    q.offer folder url = ⟨.error (.closed folder), q, []⟩ := by
  have hc : ({ q with pending := q.pending + 1 } : JobQueue).isClosed = true := h
  simp [offer, send, hc]

theorem offer_of_open {q : JobQueue} (h : q.isClosed = false) (folder url : String) :
    q.offer folder url =
      { answer := .ok ⟨folder, url, q.nextSequence⟩
        queue := { q with
          waiting := q.waiting ++ [⟨folder, url, q.nextSequence⟩]
          nextSequence := q.nextSequence + 1, pending := q.pending + 1 }
        log := if q.pending + 1 = q.highWaterMark then [backlogWarning (q.pending + 1)] else [] } := by
  have hc : ({ q with pending := q.pending + 1 } : JobQueue).isClosed = false := h
  simp [offer, send, hc]

/-- Publishes through a handle, if it is still held. -/
def publish (q : JobQueue) (handle : Nat) (folder url : String) : Option Publication :=
  if q.holds handle then some (q.offer folder url) else none

/-- Takes the next job out. -/
def receive (q : JobQueue) : Received × JobQueue :=
  if !q.hasConsumer then (.noConsumer, q)
  else match q.waiting with
    | job :: rest => (.job job, { q with waiting := rest, pending := q.pending - 1 })
    | [] => (if q.closed || !q.hasPublisher then .ended else .nothingYet, q)

theorem receive_handles (q : JobQueue) : q.receive.2.handles = q.handles := by
  unfold receive
  split
  · rfl
  · split <;> rfl

/-- The jobs that wait are given out from the front. -/
theorem receive_of_waiting {q : JobQueue} {job : Job} {rest : List Job}
    (consumer : q.hasConsumer = true) (waiting : q.waiting = job :: rest) :
    q.receive = (.job job, { q with waiting := rest, pending := q.pending - 1 }) := by
  simp [receive, consumer, waiting]

/-- Without a job to give nothing changes. -/
theorem receive_of_no_job {q : JobQueue} (h : ∀ job, q.receive.1 ≠ .job job) :
    q.receive.2 = q := by
  cases hc : q.hasConsumer with
  | false => simp [receive, hc]
  | true =>
    cases hw : q.waiting with
    | nil => simp [receive, hc, hw]
    | cons job rest => exact absurd (by rw [receive_of_waiting hc hw]) (h job)

/-- Takes no more jobs from now on. -/
def close (q : JobQueue) : JobQueue := if q.hasConsumer then { q with closed := true } else q

def dropConsumer (q : JobQueue) : JobQueue := { q with hasConsumer := false, waiting := [] }

/-- A further handle; it is held if the one it is made from is. Its number comes first. -/
def clonePublisher (q : JobQueue) (handle : Nat) : Nat × JobQueue :=
  (q.handles.length, { q with handles := q.handles ++ [q.holds handle] })

def dropPublisher (q : JobQueue) (handle : Nat) : JobQueue :=
  { q with handles := q.handles.set handle false }

/-- The backlog, as long as there is anyone to ask. -/
def pending? (q : JobQueue) : Option Nat :=
  if q.hasConsumer || q.hasPublisher then some q.pending else none

/-- What a handle says about the queue being closed. -/
def isClosed? (q : JobQueue) (handle : Nat) : Option Bool :=
  if q.holds handle then some q.isClosed else none

end JobQueue

end ImportWeights.Jobs
