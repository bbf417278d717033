import ImportWeights.Launch
import ImportWeights.Proofs.Fetch.Outcome
import ImportWeights.Proofs.Scan.Confinement
import ImportWeights.Proofs.Session.OneShot

/-! # The exit code of a one-shot session

A session fails for good when a URL is rejected, when a task is heard of that queued no job, and
when it is stopped too late or after a scan that failed. So its exit code tells whether anything
went wrong, wherever in the list and in whatever order that was. -/

namespace ImportWeights

open ImportWeights.Dispatch ImportWeights.Fetch ImportWeights.Files ImportWeights.Jobs
open ImportWeights.Logging ImportWeights.Report ImportWeights.Scan ImportWeights.Settings

namespace Session

variable {course : Course} {trace : List Turn} {fetcher : Fetcher} {s : Session}

/-- In time, a stop winds the service down. -/
theorem stopService_in_time (v : Serving fetcher trace s.service) (inTime : course.endsInTime)
    (grace : String) :
    let done := s.service.windDown (course.cloner 0)
    s.stopService course grace = (some done.stats, { s with service := { done with
      pipeline := done.pipeline.logging [Dispatcher.stoppedEntry done.stats] } }) := by
  simp only [stopService, inTime, if_true, v.stop_eq]

theorem exitCode_eq_zero_iff : s.exitCode = 0 ↔ s.healthy = true := by
  simp [exitCode]

theorem exitCode_of_ne_zero (h : s.exitCode ≠ 0) : s.exitCode = 1 := by
  simp_all [exitCode]

/-- A stop in time leaves a session healthy if it was and no scan has failed. -/
theorem stopOneShot_in_time (v : Serving fetcher trace s.service) (idle : s.service.tasks = [])
    (inTime : course.endsInTime) (grace : String) :
    let ending := s.stopOneShot course grace
    ∃ stats, (s.stopService course grace).1 = some stats ∧
      stats.failed = (failedScans ending.service.pipeline.history).length ∧
      stats.completed + stats.failed = (ending.service.ended.filterMap (·.job?)).length ∧
      ending.service.ended = s.service.ended ∧
      acceptedUrls ending.service.pipeline.history =
        acceptedUrls s.service.pipeline.history ∧
      (ending.healthy = true ↔ s.healthy = true ∧ stats.failed = 0) := by
  have stopped := stopService_in_time v inTime grace
  obtain ⟨failed, total⟩ := v.windDown_stats (course.cloner 0)
  obtain ⟨ended, accepted⟩ := Service.windDown_idle idle (course.cloner 0)
  simp only [stopOneShot, stopped]
  exact ⟨_, rfl, failed, total, ended, accepted, by simp⟩

/-- With nothing outstanding, the totals of a stop are the ones there were before. -/
theorem stopService_of_settled {grace : String} {stats : DispatchStats}
    (idle : s.service.tasks = []) (waiting : s.service.pipeline.queue.waiting = [])
    (given : (s.stopService course grace).1 = some stats) : s.service.stats = stats := by
  cases inTime : course.endsInTime with
  | false => simp [stopService, inTime] at given
  | true =>
    simp only [stopService, inTime, if_true, Service.stop_eq,
      Service.windDown_of_settled _ idle waiting, Service.stats?] at given
    split at given
    · exact Option.some.inj given
    · cases given

/-- A stop that comes too late makes a session fail. -/
theorem stopOneShot_too_late (late : course.endsInTime = false) (grace : String) :
    let ending := s.stopOneShot course grace
    (s.stopService course grace).1 = none ∧ ending.service.ended = s.service.ended ∧
      ending.service.pipeline.history = s.service.pipeline.history ∧ ending.healthy = false := by
  have stopped : s.stopService course grace =
      (none, s.logging [Service.abandonedEntry grace]) := by
    simp [stopService, late]
  simp only [stopOneShot, stopped]
  exact ⟨trivial, rfl, rfl, rfl⟩

end Session

section Launched

variable {w : Surroundings} {s : Settings} {logger : Logger} {files : FileTree}
  {reporters : List Reporter} {service : Service}

/-- Once everything has started, a program that is not to serve ends as its session does. -/
theorem Launch.withSettings_exitCode (oneShot : s.serve = false)
    (logs : Logger.start none s.log (forcesColors w.environment) w.files = .ok (logger, files))
    (reports : s.reporters w.send = .ok reporters)
    (started : Service.start s.service (s.cloneBackend.cloner w.git w.transfer).name reporters
      w.timing files = .ok service) (loaded : Option Path) :
    (withSettings w loaded s).exitCode =
      (Session.oneShot ⟨fun _ => s.cloneBackend.cloner w.git w.transfer, true⟩
        (graceText s.environment) s.repos service).exitCode := by
  simp [withSettings, work, conclude, logs, reports, started, oneShot]

/-- Once the log, the reporters and the service have started, a program that is not to serve
ends with the exit code of a one-shot session; every such session can come to its end. However
the tasks, the dispatcher and the session take turns until then, and whatever each clone and scan
gives: the code is 0 exactly when all URLs were accepted, all fetches ended with a queued job, the
service stopped in time, and the record tells of no scan that failed; otherwise it is 1. All
acceptable URLs were accepted, in their order, whichever were rejected before, and each had its
fetch ended. The service stops in time unless time runs out, and its totals count the queued jobs
and the scans that failed. -/
theorem exit_code_tells_every_failure (oneShot : s.serve = false)
    (logs : Logger.start none s.log (forcesColors w.environment) w.files = .ok (logger, files))
    (reports : s.reporters w.send = .ok reporters)
    (started : Service.start s.service (s.cloneBackend.cloner w.git w.transfer).name reporters
      w.timing files = .ok service) :
    (∀ loaded, (Launch.withSettings w loaded s).exitCode =
      (Session.oneShot ⟨fun _ => s.cloneBackend.cloner w.git w.transfer, true⟩
        (Launch.graceText s.environment) s.repos service).exitCode) ∧
    (∀ course grace, ∃ o, OneShot.Run (.begin service s.repos) o ∧ o.IsOver ∧
      Session.oneShot course grace s.repos service = o.session.stopOneShot course grace) ∧
    ∀ o, OneShot.Run (.begin service s.repos) o → (∃ o', o.Run o' ∧ o'.IsOver) ∧
      (o.IsOver → ∀ course grace,
        let stats? := (o.session.stopService course grace).1
        let ending := o.session.stopOneShot course grace
        let record := ending.service.pipeline.history
        (ending.exitCode = 0 ↔ (∀ url ∈ s.repos, service.fetcher.accepts url = true) ∧
          (∀ outcome ∈ ending.service.ended, ∃ job, outcome = .queued job) ∧
          (∃ stats, stats? = some stats) ∧ failedScans record = []) ∧
        (ending.exitCode ≠ 0 → ending.exitCode = 1) ∧
        acceptedUrls record = (s.repos.filter service.fetcher.accepts).map Text.trim ∧
        ending.service.ended.length = (s.repos.filter service.fetcher.accepts).length ∧
        (stats?.isSome ↔ course.endsInTime) ∧
        ∀ stats, stats? = some stats → stats.failed = (failedScans record).length ∧
          stats.completed + stats.failed =
            (ending.service.ended.filterMap (·.job?)).length) := by
  have v := Serving.start started
  refine ⟨Launch.withSettings_exitCode oneShot logs reports started,
    fun course grace => ⟨_, OneShot.run_oneShot v.idle course s.repos, ⟨rfl, rfl⟩, rfl⟩,
    fun o run => ⟨run.exists_over v (s.cloneBackend.cloner w.git w.transfer), ?_⟩⟩
  intro isOver course grace stats? ending record
  obtain ⟨_, _, _, a⟩ := run.account v
  obtain ⟨idle, accepted, ended, healthy⟩ := a.settled isOver
  cases inTime : course.endsInTime with
  | true =>
    obtain ⟨stats, stopped, failed, total, sameEnded, sameAccepted, still⟩ :=
      Session.stopOneShot_in_time a.serving idle inTime grace
    have noneFailed : failedScans record = [] ↔ stats.failed = 0 := by
      rw [failed, List.length_eq_zero_iff]
    refine ⟨?_, Session.exitCode_of_ne_zero, sameAccepted.trans accepted,
      (congrArg List.length sameEnded).trans ended, by simp [stats?, stopped], ?_⟩
    · rw [Session.exitCode_eq_zero_iff, still, healthy, noneFailed, sameEnded]
      simp only [stats?, stopped, Option.some.injEq, exists_eq', true_and, and_assoc]
    · intro totals given
      obtain rfl := Option.some.inj (stopped.symm.trans given)
      exact ⟨failed, total⟩
  | false =>
    obtain ⟨stopped, sameEnded, sameRecord, failed⟩ :=
      Session.stopOneShot_too_late (s := o.session) inTime grace
    refine ⟨?_, Session.exitCode_of_ne_zero, (congrArg acceptedUrls sameRecord).trans accepted,
      (congrArg List.length sameEnded).trans ended, by simp [stats?, stopped],
      by simp [stats?, stopped]⟩
    rw [Session.exitCode_eq_zero_iff, failed]
    simp [stats?, stopped]

end Launched

/-- Two repositories; the first URL lacks a host that is allowed. -/
def sampleSettings : Settings where
  listenAddr := .v4 0 8080
  environment := .dev
  service := sampleConfig
  cloneBackend := .git
  reportFormat := .text
  reportFile := none
  diagram := none
  log := .usual
  useColor := false
  repos := ["git@example.org:o/q", "git@github.com:o/r"]
  serve := false

def sampleSurroundings : Surroundings where
  build := ⟨"1", "none", "never"⟩
  environment := []
  files := ⟨.emptyDir, []⟩
  usualConfig := none
  isTerminal := false
  git := ⟨"git", fun files _ => .ok ⟨.code 0, [], files⟩⟩
  transfer := fun files _ _ => (.done .cloned, files)
  send := fun _ => .unreachable "none"
  bind := fun _ => .ok ()
  requests := []
  timing := fun _ => ⟨⟨0, 0⟩, ⟨0, 0⟩⟩
  stamp := ⟨"", ""⟩

/-- A checkout with one file to scan. -/
def clonedFiles : FileTree := ⟨.dir [([114], .dir [([97, 46, 103, 111], .file [])])], []⟩

def cloningSurroundings : Surroundings :=
  { sampleSurroundings with git := ⟨"git", fun _ _ => .ok ⟨.code 0, [], clonedFiles⟩⟩ }

theorem clonedFiles_candidates :
    collectCandidates ⟨[]⟩ clonedFiles ⟨[114]⟩ = .ok [[[97, 46, 103, 111]]] := by
  have checkout : clonedFiles.node ⟨[114]⟩ = .ok (.dir [([97, 46, 103, 111], .file [])]) := by
    simp [FileTree.node, clonedFiles, FileTree.locate, FileTree.steps, FileTree.walk, Path.names,
      Path.separator, Path.isAbsolute, Text.pieces, Path.currentName, Path.parentName, Node.at?,
      Node.child?, Node.entries, maxPathLength, maxNameLength]
  exact collectCandidates_of_flat [[97, 46, 103, 111]] checkout (by simp [Node.isDir]) rfl
    (by decide) (by simp only [isCandidate_eq, isPruned_eq]; decide) (by simp)

def cloningCloner : Cloner := programCloner cloningSurroundings.git

def clonedJob : Job := ⟨"r", "git@github.com:o/r", 1⟩

theorem cloningCloner_clone :
    cloningCloner.clone ⟨.emptyDir, []⟩ sampleTask.url sampleTask.dest =
      (.done .cloned, clonedFiles) := by
  have place : sampleTask.dest.join checkoutName = ⟨[114, 47, 46, 103, 105, 116]⟩ := by
    decide +kernel
  have absent : hasCheckout ⟨.emptyDir, []⟩ sampleTask.dest = false := by
    rw [hasCheckout, place]
    simp [FileTree.pathExists, FileTree.node, FileTree.locate, FileTree.steps, FileTree.walk,
      Path.names, Path.separator, Path.isAbsolute, Text.pieces, Path.currentName, Path.parentName,
      Node.at?, Node.child?, Node.entries, Node.emptyDir, maxPathLength, maxNameLength]
  have plain : ((cloneArguments sampleTask.url sampleTask.dest).any fun a =>
    a.toList.contains '\x00') = false := by decide +kernel
  have ran : Program.start cloningSurroundings.git ⟨.emptyDir, []⟩
      (cloneArguments sampleTask.url sampleTask.dest) = .ok ⟨.code 0, [], clonedFiles⟩ := by
    rw [Program.start, plain]
    rfl
  simp only [cloningCloner, programCloner, absent, ran]
  rfl

theorem sampleTask_run {p : Pipeline} (empty : p.files = ⟨.emptyDir, []⟩)
    (queue : p.queue = ⟨[], 1, 0, 64, false, true, [true, true]⟩) :
    ∃ q, sampleTask.run cloningCloner p = (.queued clonedJob, q) ∧ q.files = clonedFiles ∧
      q.queue.waiting = [clonedJob] ∧ q.queue.hasConsumer = true := by
  have made : p.files.makeDirectories sampleTask.stagingDir = .ok ⟨.emptyDir, []⟩ := by
    rw [empty]
    rfl
  have cloned : sampleTask.clone cloningCloner p = _ := FetchTask.clone_of_made made
  rw [cloningCloner_clone] at cloned
  simp only [FetchTask.run, cloned]
  refine ⟨_, Prod.ext ?_ rfl, ?_, ?_, ?_⟩ <;>
    simp [FetchTask.conclude, FetchTask.succeed, FetchTask.publish, FetchTask.announce,
      FetchTask.release, JobQueue.offer, JobQueue.send, JobQueue.isClosed,
      JobQueue.dropPublisher, queue, clonedJob, sampleTask]

/-- The one repository is cloned, queued and scanned before the service is stopped. -/
theorem cloned_session_scans {service : Service}
    (started : Service.start sampleSettings.service "git"
      [(ConsoleReporter.create .text none false).reporter] sampleSurroundings.timing
      sampleSurroundings.files = .ok service) :
    let done := (((Session.begin service).submitAll ["git@github.com:o/r"]).awaitAll
      ⟨fun _ => cloningCloner, true⟩).service
    done.tasks = [] ∧ done.pipeline.queue.waiting = [] ∧ done.stats = ⟨1, 0⟩ := by
  intro done
  let submitted := (Session.begin service).submit "git@github.com:o/r"
  obtain ⟨tasks, empty, queue, stats, scanner, root⟩ : submitted.service.tasks = [sampleTask] ∧
      submitted.service.pipeline.files = ⟨.emptyDir, []⟩ ∧
      submitted.service.pipeline.queue = ⟨[], 1, 0, 64, false, true, [true, true]⟩ ∧
      submitted.service.stats = ⟨0, 0⟩ ∧
      submitted.service.dispatcher.scanner.filter = ⟨[]⟩ ∧
      submitted.service.dispatcher.scanRoot clonedJob = ⟨[114]⟩ := by
    cases started
    exact ⟨by rfl, rfl, by rfl, rfl, rfl, by decide +kernel⟩
  obtain ⟨q, ran, files, waiting, consumer⟩ := sampleTask_run empty queue
  have ends := submitted.service.finish_eq (i := 0) (by rw [tasks]; rfl) cloningCloner
  rw [ran] at ends
  obtain ⟨after, ends, idle, left, counted, same⟩ : ∃ after,
      submitted.service.finish 0 cloningCloner = some (.queued clonedJob, after) ∧
      after.tasks = [] ∧ after.pipeline = q ∧ after.stats = ⟨0, 0⟩ ∧
      after.dispatcher = submitted.service.dispatcher :=
    ⟨_, ends, by simp [tasks], rfl, stats, rfl⟩
  rw [← left] at files waiting consumer
  -- the job is scanned as soon as the task was heard of
  let heard := ({ submitted with service := after } : Session).hear sampleTask (.queued clonedJob)
  have scanned : done = heard.service.dispatchNext := by
    have awaited := OneShot.await_eq tasks ends
    change (submitted.awaitAll _).service = _
    rw [Session.awaitAll, tasks, ← heard.service.dispatchAll_of_one waiting]
    exact congrArg Session.service awaited
  have given := JobQueue.receive_of_waiting (q := heard.service.pipeline.queue) consumer waiting
  have checkout : heard.service.pipeline.files = clonedFiles := files
  have found : collectCandidates heard.service.dispatcher.scanner.filter clonedFiles
      (heard.service.dispatcher.scanRoot clonedJob) = .ok [[[97, 46, 103, 111]]] := by
    rw [show heard.service.dispatcher = _ from same, scanner, root, clonedFiles_candidates]
  have next : heard.service.pipeline.queue.receive.1 = .job clonedJob := by rw [given]
  rw [scanned, heard.service.dispatchNext_eq next]
  refine ⟨idle, by simp [given], ?_⟩
  rw [Dispatcher.process_result]
  simp only [checkout, (scanTree_of_ok found).1, Except.map]
  exact congrArg (Dispatcher.count · _) counted

/-- The rejected URL comes first; the other one is submitted nevertheless, and what becomes of
it does not make the failure good. With the other one alone, and a git that clones it, the
program succeeds. -/
theorem exit_code_tells_every_failure_rejected_first : ∃ service,
    sampleSettings.serve = false ∧
    (Logger.start none sampleSettings.log (forcesColors sampleSurroundings.environment)
      sampleSurroundings.files).isOk = true ∧
    Service.start sampleSettings.service "git"
      [(ConsoleReporter.create .text none false).reporter] sampleSurroundings.timing
      sampleSurroundings.files = .ok service ∧
    (Launch.withSettings sampleSurroundings none sampleSettings).exitCode = 1 ∧
    (Launch.withSettings cloningSurroundings none
      { sampleSettings with repos := ["git@github.com:o/r"] }).exitCode = 0 ∧
    ∀ o, OneShot.Run (.begin service sampleSettings.repos) o → o.IsOver → ∀ course grace,
      (o.session.stopOneShot course grace).exitCode = 1 ∧
      acceptedUrls (o.session.stopOneShot course grace).service.pipeline.history =
        ["git@github.com:o/r"] := by
  have level : LogFilter.parse sampleSettings.log.level = .ok ⟨[⟨"", some .info⟩]⟩ := by
    decide +kernel
  have logs : Logger.start none sampleSettings.log (forcesColors sampleSurroundings.environment)
      sampleSurroundings.files =
        .ok (⟨⟨[⟨"", some .info⟩]⟩, ⟨.text, false⟩, none, false⟩, sampleSurroundings.files) := by
    simp only [Logger.start, Logger.ready, level]
    rfl
  obtain ⟨service, started, fetcher⟩ : ∃ service, Service.start sampleSettings.service "git"
    [(ConsoleReporter.create .text none false).reporter] sampleSurroundings.timing
    sampleSurroundings.files = .ok service ∧
      service.fetcher = ⟨sampleConfig.fetch, "git", 0⟩ := ⟨_, rfl, rfl⟩
  have rejected : service.fetcher.accepts "git@example.org:o/q" = false := by
    rw [fetcher]
    decide +kernel
  have accepted : service.fetcher.accepts "git@github.com:o/r" = true := by
    rw [fetcher]
    decide
  obtain ⟨launched, schedule, sessions⟩ :=
    exit_code_tells_every_failure (w := sampleSurroundings) (s := sampleSettings) rfl logs rfl
      started
  have told (o : OneShot) (run : OneShot.Run (.begin service sampleSettings.repos) o)
      (isOver : o.IsOver) (course : Course) (grace : String) :
      (o.session.stopOneShot course grace).exitCode = 1 ∧
        acceptedUrls (o.session.stopOneShot course grace).service.pipeline.history =
          ["git@github.com:o/r"] := by
    obtain ⟨success, failure, urls, -⟩ := (sessions o run).2 isOver course grace
    have trimmed : Text.trim "git@github.com:o/r" = "git@github.com:o/r" := by decide +kernel
    refine ⟨failure fun zero => ?_, ?_⟩
    · have all := (success.mp zero).1 _ (List.mem_cons_self (a := "git@example.org:o/q"))
      simp [rejected] at all
    · simpa [sampleSettings, rejected, accepted, trimmed] using urls
  obtain ⟨o, run, isOver, same⟩ := schedule ⟨fun _ => programCloner sampleSurroundings.git, true⟩
    (Launch.graceText sampleSettings.environment)
  refine ⟨service, rfl, by rw [logs]; rfl, started, ?_, ?_, told⟩
  · rw [launched none]
    exact (congrArg Session.exitCode same).trans (told o run isOver _ _).1
  · let course : Course := ⟨fun _ => cloningCloner, true⟩
    let grace := Launch.graceText sampleSettings.environment
    obtain ⟨launched, -, sessions⟩ := exit_code_tells_every_failure (w := cloningSurroundings)
      (s := { sampleSettings with repos := ["git@github.com:o/r"] }) rfl logs rfl started
    have v := Serving.start started
    obtain ⟨success, -, -, ended, inTime, totals⟩ :=
      (sessions _ (OneShot.run_oneShot v.idle course _)).2 ⟨rfl, rfl⟩ course grace
    obtain ⟨x, given⟩ := Option.isSome_iff_exists.mp (inTime.mpr rfl)
    obtain ⟨idle, waiting, scanned⟩ := cloned_session_scans started
    obtain rfl : ⟨1, 0⟩ = x := scanned ▸ Session.stopService_of_settled idle waiting given
    obtain ⟨noneFailed, total⟩ := totals _ given
    rw [launched none]
    refine success.mpr ⟨by simpa using accepted, ?_, ⟨_, given⟩,
      List.length_eq_zero_iff.mp noneFailed.symm⟩
    -- one task has ended, and one job was counted
    obtain ⟨outcome, single⟩ := List.length_eq_one_iff.mp
      (ended.trans (by simp [accepted]))
    rw [single] at total ⊢
    refine List.forall_mem_singleton.mpr (FetchOutcome.isSome_job?_iff.mp ?_)
    cases job : outcome.job? with
    | none => simp [job] at total
    | some _ => rfl

end ImportWeights
