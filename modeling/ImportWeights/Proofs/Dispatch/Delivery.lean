import Mathlib.Data.List.Perm.Basic
import Mathlib.Tactic.Tauto
import ImportWeights.Proofs.Dispatch.Run
import ImportWeights.Proofs.Jobs.Flow

/-! # Every job is processed once, and the service ends when all have let go

The turns of a service act on its queue as a flow: they publish, receive, make handles and
drop them, and never close. `Delivery` follows the flow and the owners of the handles
through a run; each kind of turn keeps it. At the end of the queue nobody holds a handle,
so every task has ended, and nothing waits, so every queued job was processed. -/

namespace ImportWeights.Dispatch

open ImportWeights.Fetch ImportWeights.Files ImportWeights.Jobs ImportWeights.Logging
open ImportWeights.Report ImportWeights.Repository ImportWeights.Scan

/-- The handles in use besides the one of the service's own fetcher. -/
def Deployment.handles (d : Deployment) : List Nat :=
  d.service.tasks.map (·.handle) ++ d.others.map (·.handle)

private theorem perm_of_getElem? {α : Type} {xs : List α} {i : Nat} {x : α}
    (h : xs[i]? = some x) : xs.Perm (x :: xs.eraseIdx i) := by
  obtain ⟨hi, rfl⟩ := List.getElem?_eq_some_iff.mp h
  exact (List.getElem_cons_eraseIdx_perm hi).symm

structure Delivery (trace : List Turn) (d : Deployment) : Prop where
  flow : Flow d.service.pipeline.queue (queued trace) (processed trace)
  owned : Owned d.service.pipeline.queue d.service.fetcher.handle d.handles
  tasks : (begun trace).Perm ((endings trace).map (·.1) ++ d.service.tasks)
  taken : ∀ ending ∈ endings trace, ∀ e, ending.2 ≠ .notQueued e
  counted : d.service.stats.completed + d.service.stats.failed = (processed trace).length
  recorded : settled d.service.pipeline.history =
    (processed trace).map fun job => (job.folder, job.sequence)

namespace Delivery

variable {trace : List Turn} {d : Deployment} {others : List Fetcher}

theorem start {config : ServiceConfig} {cloner : String} {reporters : List Reporter}
    {timing : Job → Timing} {files : FileTree} {s : Service}
    (h : Service.start config cloner reporters timing files = .ok s) : Delivery [] ⟨s, []⟩ := by
  unfold Service.start at h
  split at h
  · cases h
  · cases h
    exact ⟨.start, .start, .nil, by simp [endings], rfl, rfl⟩

/-- A fetcher that can be given a URL holds its handle. -/
theorem holds (v : Delivery trace d) {f : Fetcher} (held : f ∈ d.fetchers) :
    d.service.pipeline.queue.holds f.handle = true := by
  rcases List.mem_append.mp held with own | other
  · split at own
    · rename_i hf
      rw [List.mem_singleton.mp own]
      exact hf
    · cases own
  · exact v.owned.held _ (List.mem_append_right _ (List.mem_map_of_mem other))

/-- A turn that begins no task, ends none and processes no job can only change who holds
which handle. -/
theorem quiet (v : Delivery trace d) {turn : Turn} (begins : turn.task? = none)
    (ends : turn.ending? = none) (processes : turn.processed? = none) {queue : JobQueue}
    {others : List Fetcher} (flow : Flow queue (queued trace) (processed trace))
    (owned : Owned queue d.service.fetcher.handle
      (d.service.tasks.map (·.handle) ++ others.map (·.handle))) :
    Delivery (trace ++ [turn])
      ⟨{ d.service with pipeline := { d.service.pipeline with queue } }, others⟩ := by
  have hb : begun (trace ++ [turn]) = begun trace := by simp [-Turn.task?, begins]
  have he : endings (trace ++ [turn]) = endings trace := by simp [-Turn.ending?, ends]
  have hq : queued (trace ++ [turn]) = queued trace := by simp [-Turn.ending?, ends]
  have hp : processed (trace ++ [turn]) = processed trace := by simp [-Turn.processed?, processes]
  exact ⟨by rwa [hq, hp], owned, by rw [hb, he]; exact v.tasks, by rw [he]; exact v.taken,
    by rw [hp]; exact v.counted, by rw [hp]; exact v.recorded⟩

theorem submit (v : Delivery trace d) {f : Fetcher} (url : String) (held : f ∈ d.fetchers) :
    Delivery (trace ++ [.submitted url (d.service.submitTo f url).1])
      ⟨(d.service.submitTo f url).2, d.others⟩ := by
  obtain ⟨e, same⟩ | ⟨task, pipeline, next, number, queue, history⟩ :=
    d.service.submitTo_cases f url
  · rw [same]
    exact v.quiet rfl rfl rfl v.flow v.owned
  · rw [next]
    constructor
    · simpa [queue] using v.flow.clone (v.holds held)
    · -- the new handle belongs to the new task, which is the last one under way
      have owned := v.owned.clone (v.holds held)
      rw [← queue, ← number] at owned
      refine owned.perm ?_
      simp only [Deployment.handles, List.map_append, List.map_cons, List.map_nil,
        List.append_assoc, List.singleton_append]
      exact List.perm_middle.symm
    · simpa using v.tasks.append_right [task]
    · simpa using v.taken
    · simpa using v.counted
    · simpa [history] using v.recorded

theorem finish (v : Delivery trace d) {i : Nat} {task : FetchTask} {outcome : FetchOutcome}
    {after : Service} {cloner : Cloner} (underWay : d.service.tasks[i]? = some task)
    (ends : d.service.finish i cloner = some (outcome, after)) :
    Delivery (trace ++ [.ended task outcome]) ⟨after, d.others⟩ := by
  have perm := perm_of_getElem? underWay
  have mine : Owned d.service.pipeline.queue d.service.fetcher.handle (task.handle ::
      ((d.service.tasks.eraseIdx i).map (·.handle) ++ d.others.map (·.handle))) :=
    v.owned.perm ((perm.map _).append_right _)
  have held := mine.held task.handle List.mem_cons_self
  have tasks : (begun trace).Perm
      ((endings trace).map (·.1) ++ task :: d.service.tasks.eraseIdx i) :=
    v.tasks.trans (perm.append_left _)
  obtain ⟨pipeline, rfl, history, result⟩ := Service.finish_cases underWay ends
  obtain ⟨⟨e, rfl⟩, queue⟩ | ⟨rfl, queue⟩ := result
  · constructor
    · simpa [queue, FetchOutcome.job?] using v.flow.drop held
    · exact queue ▸ mine.drop
    · simpa using tasks
    · simpa [or_imp, forall_and] using v.taken
    · simpa using v.counted
    · simpa [history] using v.recorded
  · -- the task still held its handle, so the queue was open and took the job
    obtain ⟨job, answer, flow⟩ := v.flow.offer held task.folder task.url
    have handles := v.flow.offer_handles task.folder task.url
    have mine := mine.congr handles
    rw [answer]
    constructor
    · simpa [queue, FetchOutcome.ofAnswer, FetchOutcome.job?] using
        flow.drop (mine.held task.handle List.mem_cons_self)
    · exact queue ▸ mine.drop
    · simpa using tasks
    · simpa [FetchOutcome.ofAnswer, or_imp, forall_and] using v.taken
    · simpa using v.counted
    · simpa [history] using v.recorded

theorem process (v : Delivery trace d) {job : Job}
    (next : d.service.pipeline.queue.receive.1 = .job job) :
    Delivery (trace ++ [.processed job]) ⟨d.service.dispatchNext, d.others⟩ := by
  obtain ⟨stats, pipeline, eq, counted, queue, history⟩ := Service.dispatchNext_of_job next
  rw [eq]
  constructor
  · simpa [queue] using v.flow.receive next
  · exact v.owned.congr (queue ▸ JobQueue.receive_handles _)
  · simpa using v.tasks
  · simpa using v.taken
  · simp [counted, v.counted]
  · simp [history, v.recorded]

theorem share (v : Delivery trace d) {f : Fetcher} (held : f ∈ d.fetchers) :
    Delivery (trace ++ [.shared (d.service.share f).1])
      ⟨(d.service.share f).2, d.others ++ [(d.service.share f).1]⟩ := by
  refine v.quiet rfl rfl rfl (v.flow.clone (v.holds held))
    ((v.owned.clone (v.holds held)).perm ?_)
  rw [List.map_append, ← List.append_assoc]
  exact (List.perm_append_singleton _ _).symm

theorem drop (v : Delivery trace d) {i : Nat} {f : Fetcher} (held : d.others[i]? = some f) :
    Delivery (trace ++ [.dropped f]) ⟨d.service.letGo f, d.others.eraseIdx i⟩ := by
  have mine : Owned d.service.pipeline.queue d.service.fetcher.handle (f.handle ::
      (d.service.tasks.map (·.handle) ++ (d.others.eraseIdx i).map (·.handle))) :=
    v.owned.perm ((((perm_of_getElem? held).map _).append_left _).trans List.perm_middle)
  exact v.quiet rfl rfl rfl (v.flow.drop (mine.held f.handle List.mem_cons_self)) mine.drop

/-- What is logged is no matter of the delivery. -/
theorem logging {s : Service} (v : Delivery trace ⟨s, others⟩) (entries : Log) :
    Delivery trace ⟨{ s with pipeline := s.pipeline.logging entries }, others⟩ :=
  ⟨v.flow, v.owned, v.tasks, v.taken, v.counted, v.recorded⟩

theorem stop (v : Delivery trace d) (held : d.service.hasFetcher = true) :
    Delivery (trace ++ [.stopped]) ⟨d.service.release, d.others⟩ :=
  v.quiet rfl rfl rfl (v.flow.drop held) v.owned.release

theorem step (v : Delivery trace d) {turn : Turn} {e : Deployment} (h : d.Step turn e) :
    Delivery (trace ++ [turn]) e := by
  cases h with
  | submit url held => exact v.submit url held
  | finish cloner underWay ends => exact v.finish underWay ends
  | process next => exact v.process next
  | share held => exact v.share held
  | drop held => exact v.drop held
  | stop held => exact v.stop held

/-- The queue has ended exactly when everybody has let go and nothing waits. -/
theorem ended_iff (v : Delivery trace d) :
    d.service.pipeline.queue.receive.1 = .ended ↔
      d.fetchers = [] ∧ d.service.tasks = [] ∧ d.service.pipeline.queue.waiting = [] := by
  rw [v.flow.ended_iff, v.owned.none_held_iff]
  have own : d.service.pipeline.queue.holds d.service.fetcher.handle = d.service.hasFetcher := rfl
  simp only [own, Deployment.handles, Deployment.fetchers, List.append_eq_nil_iff,
    List.map_eq_nil_iff, ite_eq_right_iff, reduceCtorEq, imp_false, Bool.not_eq_true]
  tauto

/-- There are totals exactly at the end of the queue. -/
theorem stats?_isSome_iff (v : Delivery trace d) :
    d.service.stats?.isSome ↔
      d.fetchers = [] ∧ d.service.tasks = [] ∧ d.service.pipeline.queue.waiting = [] := by
  rw [← v.ended_iff]
  by_cases ended : d.service.pipeline.queue.receive.1 = .ended <;> simp [Service.stats?, ended]

end Delivery

theorem Delivery.run {d e : Deployment} {before trace : List Turn} (v : Delivery before d)
    (run : d.Run trace e) : Delivery (before ++ trace) e := by
  induction run with
  | refl => simpa using v
  | step _ h ih => simpa using ih.step h

theorem Deployment.Run.delivery {d e : Deployment} {trace : List Turn} (v : Delivery [] d)
    (run : d.Run trace e) : Delivery trace e := v.run run

def sampleConfig : ServiceConfig := ⟨⟨⟨[]⟩, "github.com", .segment⟩, ⟨4096, []⟩⟩

/-- A service that has just been started, with no reporter and no files. -/
def sampleService : Service where
  fetcher := ⟨sampleConfig.fetch, "git", 0⟩
  dispatcher := ⟨⟨⟨[]⟩, 4096⟩, ⟨[]⟩, [], fun _ => ⟨⟨0, 0⟩, ⟨0, 0⟩⟩⟩
  pipeline := (Pipeline.start ⟨.emptyDir, []⟩ .fresh).logging
    [Service.startEntry sampleConfig "git" [], Dispatcher.startedEntry]
  tasks := []
  ended := []
  received := []
  stats := ⟨0, 0⟩

end ImportWeights.Dispatch
