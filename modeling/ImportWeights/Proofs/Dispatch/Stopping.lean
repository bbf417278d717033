import Mathlib.Data.List.Induction
import ImportWeights.Proofs.Dispatch.Tally

/-! # A stop ends the queue

A service keeps its own fetcher until it is stopped. A stop winds the service down: the fetcher
goes, the jobs that wait are processed, the tasks under way end, and what they queued is
processed, too. If nobody else holds a fetcher, the queue has ended, and there are totals: each
job was processed once, in order. -/

namespace ImportWeights.Jobs.Owned

variable {q : JobQueue} {own handle : Nat} {others : List Nat}

theorem holds_own_clone (o : Owned q own others) :
    (q.clonePublisher handle).2.holds own = q.holds own :=
  (holds_append q _ own).trans (if_neg (Nat.ne_of_lt o.known))

theorem holds_own_drop (o : Owned q own others) (h : handle ∈ others) :
    (q.dropPublisher handle).holds own = q.holds own := by
  have hne : own ≠ handle := fun he => (List.nodup_cons.mp o.distinct).1 (he ▸ h)
  exact (holds_set q handle own).trans (if_neg hne)

end ImportWeights.Jobs.Owned

namespace ImportWeights.Dispatch

open ImportWeights.Fetch ImportWeights.Files ImportWeights.Jobs ImportWeights.Logging
open ImportWeights.Report ImportWeights.Repository ImportWeights.Scan

def Turn.stops : Turn → Bool
  | .stopped => true
  | _ => false

namespace Delivery

variable {trace more : List Turn} {d e : Deployment}

/-- Only a stop takes the service its fetcher, and nothing gives it back. -/
theorem hasFetcher_step (v : Delivery trace d) {turn : Turn} (h : d.Step turn e) :
    e.service.hasFetcher = (d.service.hasFetcher && !turn.stops) := by
  cases h with
  | @submit f url held =>
    obtain ⟨_, same⟩ | ⟨task, pipeline, next, -, queue, -⟩ := d.service.submitTo_cases f url
    · simp [same, Turn.stops]
    · simp [next, Service.hasFetcher, queue, v.owned.holds_own_clone, Turn.stops]
  | @finish i task outcome after cloner underWay ends =>
    -- the task drops its own handle, which is not that of the service's fetcher
    have mine : task.handle ∈ d.handles :=
      List.mem_append_left _ (List.mem_map_of_mem (List.mem_of_getElem? underWay))
    have offered := v.owned.congr (v.flow.offer_handles task.folder task.url)
    have same : ∀ handle, (d.service.pipeline.queue.offer task.folder task.url).queue.holds handle =
        d.service.pipeline.queue.holds handle := by
      intro handle
      simp [JobQueue.holds, v.flow.offer_handles]
    obtain ⟨pipeline, rfl, -, ⟨-, queue⟩ | ⟨-, queue⟩⟩ := Service.finish_cases underWay ends
    · simp [Service.hasFetcher, queue, v.owned.holds_own_drop mine, Turn.stops]
    · simp [Service.hasFetcher, queue, offered.holds_own_drop mine, same, Turn.stops]
  | process next =>
    obtain ⟨_, _, eq, -, queue, -⟩ := Service.dispatchNext_of_job next
    simp [eq, Service.hasFetcher, queue, JobQueue.holds, JobQueue.receive_handles, Turn.stops]
  | share held =>
    simp [Service.share, Service.hasFetcher, v.owned.holds_own_clone, Turn.stops]
  | drop held =>
    have mine := List.mem_append_right (d.service.tasks.map (·.handle))
      (List.mem_map_of_mem (f := (·.handle)) (List.mem_of_getElem? held))
    simp [Service.letGo, Service.hasFetcher, v.owned.holds_own_drop mine, Turn.stops]
  | stop held =>
    have gone := holds_set d.service.pipeline.queue d.service.fetcher.handle
      d.service.fetcher.handle
    simp [Service.release, Service.letGo, Service.hasFetcher, JobQueue.dropPublisher, gone,
      Turn.stops]

theorem released_run (v : Delivery trace d) (run : d.Run more e)
    (released : d.service.hasFetcher = false) :
    Delivery (trace ++ more) e ∧ e.service.hasFetcher = false := by
  induction run with
  | refl => exact ⟨by simpa using v, released⟩
  | step _ h ih =>
    obtain ⟨v, released⟩ := ih
    exact ⟨by simpa using v.step h, by simp [v.hasFetcher_step h, released]⟩

end Delivery

namespace Service

variable (s : Service)

/-- What processing the next job keeps, processing all that wait keeps. -/
theorem dispatchAll_keeps {s : Service} {P : Service → Prop} (start : P s)
    (next : ∀ (s : Service) (job : Job), P s → s.pipeline.queue.receive.1 = .job job →
      P s.dispatchNext) : P s.dispatchAll := by
  refine List.foldlRecOn _ _ start fun s kept _ _ => ?_
  by_cases h : ∃ job, s.pipeline.queue.receive.1 = .job job
  · obtain ⟨job, received⟩ := h
    exact next s job kept received
  · rwa [dispatchNext_of_no_job (not_exists.mp h)]

/-- Processing jobs is no matter of the fetches. -/
theorem dispatchAll_fetches : s.dispatchAll.tasks = s.tasks ∧ s.dispatchAll.ended = s.ended ∧
    acceptedUrls s.dispatchAll.pipeline.history = acceptedUrls s.pipeline.history :=
  dispatchAll_keeps (P := fun t => t.tasks = s.tasks ∧ t.ended = s.ended ∧
    acceptedUrls t.pipeline.history = acceptedUrls s.pipeline.history) ⟨rfl, rfl, rfl⟩
    fun t job kept received => by
      rw [t.dispatchNext_eq received]
      simpa only [acceptedUrls_process] using kept

theorem dispatchAll_waiting {s : Service} (consumer : s.pipeline.queue.hasConsumer = true) :
    s.dispatchAll.pipeline.queue.waiting = [] := by
  unfold dispatchAll
  generalize waiting : s.pipeline.queue.waiting = jobs
  induction jobs generalizing s with
  | nil => exact waiting
  | cons job rest ih =>
    have received := JobQueue.receive_of_waiting consumer waiting
    obtain ⟨_, _, eq, -, queue, -⟩ := dispatchNext_of_job (by rw [received])
    rw [List.foldl_cons, eq]
    refine ih ?_ ?_ <;> simp [queue, received, consumer]

theorem dispatchAll_of_one {job : Job} (waiting : s.pipeline.queue.waiting = [job]) :
    s.dispatchAll = s.dispatchNext := by
  rw [dispatchAll, waiting]
  rfl

theorem finishOldest_tasks (cloner : Cloner) : (s.finishOldest cloner).tasks = s.tasks.tail := by
  cases tasks : s.tasks with
  | nil => simp [finishOldest, finish, tasks]
  | cons task rest =>
    rw [finishOldest, s.finish_eq (i := 0) (by rw [tasks]; rfl)]
    simp [tasks]

theorem finishAll_tasks (cloner : Cloner) : (s.finishAll cloner).tasks = [] := by
  unfold finishAll
  generalize under : s.tasks = tasks
  induction tasks generalizing s with
  | nil => exact under
  | cons task rest ih =>
    rw [List.foldl_cons]
    exact ih _ (by rw [finishOldest_tasks, under, List.tail_cons])

/-- Lets the fetcher go and all outstanding work come to its end. -/
def windDown (s : Service) (cloner : Cloner) : Service :=
  (s.release.dispatchAll.finishAll cloner).dispatchAll

theorem windDown_tasks (cloner : Cloner) : (s.windDown cloner).tasks = [] := by
  rw [windDown, (dispatchAll_fetches _).1, finishAll_tasks]

/-- If no task is under way, no fetch ends any more. -/
theorem windDown_idle {s : Service} (idle : s.tasks = []) (cloner : Cloner) :
    (s.windDown cloner).ended = s.ended ∧
      acceptedUrls (s.windDown cloner).pipeline.history = acceptedUrls s.pipeline.history := by
  obtain ⟨tasks, ended, accepted⟩ := s.release.dispatchAll_fetches
  obtain ⟨-, ended', accepted'⟩ := (s.release.dispatchAll.finishAll cloner).dispatchAll_fetches
  have same : s.release.dispatchAll.finishAll cloner = s.release.dispatchAll := by
    rw [finishAll, tasks]
    exact congrArg (List.foldl _ _) idle
  rw [windDown]
  rw [same] at ended' accepted' ⊢
  exact ⟨ended'.trans ended, accepted'.trans accepted⟩

/-- With nothing outstanding, only the fetcher goes. -/
theorem windDown_of_settled (idle : s.tasks = []) (waiting : s.pipeline.queue.waiting = [])
    (cloner : Cloner) : s.windDown cloner = s.release := by
  have done (t : Service) (h : t.pipeline.queue.waiting = []) : t.dispatchAll = t := by
    rw [dispatchAll, h]
    rfl
  have finished : s.release.finishAll cloner = s.release := by
    rw [finishAll, show s.release.tasks = [] from idle]
    rfl
  have left : s.release.pipeline.queue.waiting = [] := waiting
  rw [windDown, done _ left, finished, done _ left]

/-- A stop winds the service down, gives the totals if there are any, and logs that it did or
that it gave up. -/
theorem stop_eq (cloner : Cloner) (grace : String) :
    let done := s.windDown cloner
    s.stop cloner grace = (done.stats?, { done with
      pipeline := done.pipeline.logging
        [done.stats?.elim (abandonedEntry grace) Dispatcher.stoppedEntry] }) := by
  simp only [windDown, stop]
  cases (s.release.dispatchAll.finishAll cloner).dispatchAll.stats? <;> rfl

end Service

namespace Delivery

variable {trace : List Turn} {d : Deployment}

/-- Winding a service down is a run. It leaves the fetchers of others and nothing else that is
outstanding. -/
theorem windDown (v : Delivery trace d) (held : d.service.hasFetcher = true) (cloner : Cloner) :
    ∃ more, d.Run more ⟨d.service.windDown cloner, d.others⟩ ∧
      Delivery (trace ++ more) ⟨d.service.windDown cloner, d.others⟩ ∧
      (d.service.windDown cloner).hasFetcher = false ∧
      (d.service.windDown cloner).pipeline.queue.waiting = [] := by
  have stop : d.Step .stopped ⟨d.service.release, d.others⟩ := .stop held
  have released : d.service.release.hasFetcher = false := by
    simpa [Turn.stops] using v.hasFetcher_step stop
  obtain ⟨_, first⟩ := d.run_released cloner
  obtain ⟨v', gone⟩ := (v.step stop).released_run first released
  obtain ⟨_, second⟩ :=
    Deployment.run_dispatchAll ⟨d.service.release.dispatchAll.finishAll cloner, d.others⟩
  have waiting := Service.dispatchAll_waiting v'.flow.hasConsumer
  obtain ⟨-, gone⟩ := v'.released_run second gone
  have run := (Deployment.Run.one stop).trans (first.trans second)
  exact ⟨_, run, v.run run, gone, waiting⟩

/-- A service that was wound down has totals unless somebody else holds a fetcher. -/
theorem windDown_stats? (v : Delivery trace d) (held : d.service.hasFetcher = true)
    (cloner : Cloner) : (d.service.windDown cloner).stats?.isSome ↔ d.others = [] := by
  obtain ⟨_, -, ending, gone, waiting⟩ := v.windDown held cloner
  rw [ending.stats?_isSome_iff]
  simp [Deployment.fetchers, gone, waiting, Service.windDown_tasks]

end Delivery

/-- A service that has shown `trace`, has its fetcher, and shares it with nobody. -/
structure Serving (fetcher : Fetcher) (trace : List Turn) (s : Service) : Prop where
  delivery : Delivery trace ⟨s, []⟩
  tally : Tally trace s
  held : s.hasFetcher = true
  fetcher : s.fetcher = fetcher

namespace Serving

variable {fetcher : Fetcher} {trace : List Turn} {s : Service}

theorem start {config : ServiceConfig} {cloner : String} {reporters : List Reporter}
    {timing : Job → Timing} {files : FileTree}
    (h : Service.start config cloner reporters timing files = .ok s) : Serving s.fetcher [] s := by
  refine ⟨.start h, .start h, ?_, rfl⟩
  unfold Service.start at h
  split at h
  · cases h
  · cases h
    rfl

theorem idle (v : Serving fetcher [] s) : s.tasks = [] := by
  simpa [begun, endings] using v.delivery.tasks

theorem step (v : Serving fetcher trace s) {turn : Turn} {after : Service}
    (h : Deployment.Step ⟨s, []⟩ turn ⟨after, []⟩) (stays : turn.stops = false) :
    Serving fetcher (trace ++ [turn]) after :=
  ⟨v.delivery.step h, v.tally.step h, by simp [v.delivery.hasFetcher_step h, v.held, stays],
    h.fetcher_eq.trans v.fetcher⟩

theorem logging (v : Serving fetcher trace s) (entries : Log) :
    Serving fetcher trace { s with pipeline := s.pipeline.logging entries } :=
  ⟨v.delivery.logging entries, v.tally.logging entries, v.held, v.fetcher⟩

/-- Winding a service down ends its queue. -/
theorem windDown (v : Serving fetcher trace s) (cloner : Cloner) :
    (∃ more, Deployment.Run ⟨s, []⟩ more ⟨s.windDown cloner, []⟩) ∧
      (s.windDown cloner).pipeline.queue.receive.1 = .ended := by
  obtain ⟨more, run, ending, gone, waiting⟩ := v.delivery.windDown v.held cloner
  refine ⟨⟨more, run⟩, ending.ended_iff.mpr ⟨?_, s.windDown_tasks cloner, waiting⟩⟩
  simp [Deployment.fetchers, gone]

theorem stop_eq (v : Serving fetcher trace s) (cloner : Cloner) (grace : String) :
    s.stop cloner grace = (some (s.windDown cloner).stats, { s.windDown cloner with
      pipeline := (s.windDown cloner).pipeline.logging
        [Dispatcher.stoppedEntry (s.windDown cloner).stats] }) := by
  obtain ⟨-, ended⟩ := v.windDown cloner
  have totals : (s.windDown cloner).stats? = some (s.windDown cloner).stats := if_pos ended
  rw [s.stop_eq, totals, Option.elim_some]

/-- The totals count the queued jobs, and among them those whose scans failed. -/
theorem windDown_stats (v : Serving fetcher trace s) (cloner : Cloner) :
    let done := s.windDown cloner
    done.stats.failed = (failedScans done.pipeline.history).length ∧
      done.stats.completed + done.stats.failed = (done.ended.filterMap (·.job?)).length := by
  intro done
  obtain ⟨⟨more, run⟩, ended⟩ := v.windDown cloner
  have tally : Tally (trace ++ more) done := v.tally.run run
  obtain ⟨delivery, waiting⟩ : Delivery (trace ++ more) ⟨done, []⟩ ∧
      done.pipeline.queue.waiting = [] := by
    have delivery := v.delivery.run run
    exact ⟨delivery, (delivery.ended_iff.mp ended).2.2⟩
  have all : processed (trace ++ more) = queued (trace ++ more) := by
    simpa [waiting] using delivery.flow.kept
  refine ⟨tally.failed, ?_⟩
  rw [tally.ended, List.filterMap_map, delivery.counted, all]
  rfl

end Serving

section Stopped

variable {config : ServiceConfig} {cloner : String} {reporters : List Reporter}
  {timing : Job → Timing} {files : FileTree} {s : Service} {trace : List Turn} {d : Deployment}

/-- The totals are there exactly when the service's fetcher and all others were let go, no
task is under way and no job waits. Then every task that was begun has ended, none was
refused by the queue, the queued jobs are numbered from 1 without a gap, and those same jobs
were received and their scans brought to an end, once each and in that order. A stop goes on
with the run until nothing but the fetchers of others is outstanding. It gives the totals that
are there, so it gives some exactly when nobody else holds a fetcher, and it only adds to the
log what it gave. -/
theorem stopped_service_processed_every_job
    (started : Service.start config cloner reporters timing files = .ok s)
    (run : Deployment.Run ⟨s, []⟩ trace d) :
    (d.service.stats?.isSome ↔
      d.fetchers = [] ∧ d.service.tasks = [] ∧ d.service.pipeline.queue.waiting = []) ∧
    (∀ stats, d.service.stats? = some stats →
      (begun trace).Perm ((endings trace).map (·.1)) ∧
      (∀ ending ∈ endings trace, ∀ e, ending.2 ≠ .notQueued e) ∧
      (queued trace).map (·.sequence) = List.range' 1 (queued trace).length ∧
      processed trace = queued trace ∧
      settled d.service.pipeline.history =
        (queued trace).map (fun job => (job.folder, job.sequence)) ∧
      stats.completed + stats.failed = (queued trace).length) ∧
    (d.service.hasFetcher = true → ∀ cloner grace, ∃ more e,
      Deployment.Run ⟨s, []⟩ (trace ++ more) e ∧
      e.fetchers = d.others ∧ e.service.tasks = [] ∧ e.service.pipeline.queue.waiting = [] ∧
      (d.service.stop cloner grace).1 = e.service.stats? ∧
      ((d.service.stop cloner grace).1.isSome ↔ d.others = []) ∧
      (d.service.stop cloner grace).2 = { e.service with
        pipeline := e.service.pipeline.logging
          [e.service.stats?.elim (Service.abandonedEntry grace) Dispatcher.stoppedEntry] }) := by
  have v := run.delivery (.start started)
  refine ⟨v.stats?_isSome_iff, ?_, ?_⟩
  · intro stats given
    obtain ⟨ended, rfl⟩ :
        d.service.pipeline.queue.receive.1 = .ended ∧ d.service.stats = stats := by
      simpa [Service.stats?] using given
    obtain ⟨-, noTask, noneWaits⟩ := v.ended_iff.mp ended
    have all : processed trace = queued trace := by simpa [noneWaits] using v.flow.kept
    exact ⟨by simpa [noTask] using v.tasks, v.taken, v.flow.numbered, all,
      all ▸ v.recorded, all ▸ v.counted⟩
  · intro held cloner grace
    obtain ⟨more, stopping, -, gone, waiting⟩ := v.windDown held cloner
    refine ⟨more, _, run.trans stopping, ?_, d.service.windDown_tasks cloner, waiting, ?_⟩
    · simp [Deployment.fetchers, gone]
    · rw [d.service.stop_eq]
      exact ⟨rfl, v.windDown_stats? held cloner, rfl⟩

end Stopped

/-- The service is stopped while its only task is under way; the task still queues its job. A
stop at that point gives totals, whatever cloner the task meets. -/
theorem stopped_service_processed_every_job_under_way : ∃ trace d stats,
    Service.start sampleConfig "git" [] (fun _ => ⟨⟨0, 0⟩, ⟨0, 0⟩⟩) ⟨.emptyDir, []⟩ =
      .ok sampleService ∧
    Deployment.Run ⟨sampleService, []⟩ trace d ∧ d.service.stats? = some stats ∧
    queued trace = [⟨"r", "git@github.com:o/r", 1⟩] ∧ processed trace = queued trace ∧
    stats.completed + stats.failed = 1 ∧ ∀ cloner grace,
      ((sampleService.submit "git@github.com:o/r").2.stop cloner grace).1.isSome := by
  have started : Service.start sampleConfig "git" [] (fun _ => ⟨⟨0, 0⟩, ⟨0, 0⟩⟩) ⟨.emptyDir, []⟩ =
    .ok sampleService := rfl
  have submitted := (Deployment.Run.refl (d := ⟨sampleService, []⟩)).step
    (.submit "git@github.com:o/r" (show sampleService.fetcher ∈ _ from .head _))
  have stops (cloner : Cloner) (grace : String) :
      ((sampleService.submit "git@github.com:o/r").2.stop cloner grace).1.isSome := by
    obtain ⟨-, -, ending⟩ := stopped_service_processed_every_job started submitted
    obtain ⟨_, _, -, -, -, -, -, totals, -⟩ := ending (by rfl) cloner grace
    exact totals.mpr rfl
  obtain ⟨trace, d, before, own, others, tasks, queue, jobs⟩ : ∃ trace d,
      Deployment.Run ⟨sampleService, []⟩ trace d ∧ d.service.fetcher.handle = 0 ∧
      d.others = [] ∧ d.service.tasks = [] ∧
      d.service.pipeline.queue =
        ⟨[⟨"r", "git@github.com:o/r", 1⟩], 2, 1, 64, false, true, [false, false]⟩ ∧
      queued trace = [⟨"r", "git@github.com:o/r", 1⟩] := by
    have stopped := submitted.step (.stop (by rfl))
    have ended := stopped.step (.finish ⟨"git", fun files _ _ => (.done .cloned, files)⟩
      (show _[0]? = some _ by rfl) (by rfl))
    exact ⟨_, _, ended, rfl, rfl, rfl, by rfl, by rfl⟩
  have next : d.service.pipeline.queue.receive.1 = .job ⟨"r", "git@github.com:o/r", 1⟩ := by
    rw [queue]
    rfl
  have run := before.step (.process next)
  obtain ⟨_, pipeline, eq, -, left, -⟩ := Service.dispatchNext_of_job next
  obtain ⟨isSome, settles, -⟩ := stopped_service_processed_every_job started run
  have given := isSome.mpr (by
    rw [queue] at left
    rw [eq]
    simp [Deployment.fetchers, Service.hasFetcher, JobQueue.receive, JobQueue.holds, left, own,
      others, tasks])
  obtain ⟨stats, given⟩ := Option.isSome_iff_exists.mp given
  obtain ⟨-, -, -, same, -, total⟩ := settles stats given
  have all : queued (trace ++ [.processed ⟨"r", "git@github.com:o/r", 1⟩]) =
    [⟨"r", "git@github.com:o/r", 1⟩] := by simp [jobs]
  exact ⟨_, _, stats, started, run, given, all, same, by rw [total, all]; rfl, stops⟩

end ImportWeights.Dispatch
