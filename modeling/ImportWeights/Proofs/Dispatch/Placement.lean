import ImportWeights.Proofs.Dispatch.Delivery
import ImportWeights.Proofs.Fetch.Outcome
import ImportWeights.Proofs.Files.Joined
import ImportWeights.Proofs.Repository.Folder

/-! # Clones lie in the staging directory and are scanned there

The folder of an accepted URL is one proper name, so its task clones to one component below the
staging directory. All fetchers of a service have its configuration and its dispatcher the same
staging directory, and no turn changes that (`Placement`). So a cloner is only ever called for
such a place, and the job that comes of it is scanned there. -/

namespace ImportWeights.Dispatch

open ImportWeights.Events ImportWeights.Fetch ImportWeights.Files ImportWeights.Jobs
open ImportWeights.Report ImportWeights.Repository ImportWeights.Scan

def Occurrence.call? : Occurrence → Option (String × Path)
  | .cloneCall url dest => some (url, dest)
  | _ => none

/-- What the cloners were called for, as the record tells. -/
def cloneCalls (history : List Occurrence) : List (String × Path) :=
  history.filterMap Occurrence.call?

@[simp] theorem cloneCalls_append (a b : List Occurrence) :
    cloneCalls (a ++ b) = cloneCalls a ++ cloneCalls b :=
  List.filterMap_append

@[simp] theorem cloneCalls_map_event {α : Type} (event : α → Event) (xs : List α) :
    cloneCalls (xs.map fun x => .event (event x)) = [] := by
  simp [cloneCalls, Occurrence.call?]

theorem mem_cloneCalls {history : List Occurrence} {url : String} {dest : Path} :
    (url, dest) ∈ cloneCalls history ↔ .cloneCall url dest ∈ history := by
  rw [cloneCalls, List.mem_filterMap]
  constructor
  · rintro ⟨o, ho, call⟩
    cases o <;> cases call
    exact ho
  · intro h
    exact ⟨_, h, rfl⟩

/-- A scan calls no cloner. -/
theorem cloneCalls_process (d : Dispatcher) (job : Job) (p : Pipeline) :
    cloneCalls (d.process job p).2.history = cloneCalls p.history := by
  have begun : cloneCalls [.event (Dispatcher.jobEvent job .started none)] = [] := rfl
  have closing (result) : cloneCalls (d.closing job result) = [] := by
    cases result with
    | error e => rfl
    | ok scan => simp [Dispatcher.closing, cloneCalls, Occurrence.call?]
  rw [(d.process_tells job p).history, Dispatcher.block, ← List.singleton_append]
  simp only [cloneCalls_append, begun, cloneCalls_map_event, closing, List.append_nil]

/-- A task calls the cloner once, if it comes to that. -/
theorem cloneCalls_run (t : FetchTask) (cloner : Cloner) (p : Pipeline) :
    cloneCalls (t.run cloner p).2.history = cloneCalls p.history ++ cloneCalls (t.calls p.files) := by
  have story (events : List Event) : cloneCalls (events.map .event) = [] :=
    cloneCalls_map_event id events
  rw [(t.run_tells cloner p).history, cloneCalls_append, cloneCalls_append, story,
    List.append_nil]

theorem cloneCalls_calls (t : FetchTask) (files : FileTree) :
    ∀ call ∈ cloneCalls (t.calls files), call = (t.url, t.dest) := by
  intro call h
  unfold FetchTask.calls at h
  split at h
  · cases h
  · exact List.mem_singleton.mp h

/-- A job is only queued after a call of the cloner. -/
theorem called_of_queued {t : FetchTask} {cloner : Cloner} {p : Pipeline} {job : Job}
    (h : (t.run cloner p).1 = .queued job) :
    job.folder = t.folder ∧ (t.url, t.dest) ∈ cloneCalls (t.calls p.files) := by
  obtain ⟨⟨status, answer⟩, opened⟩ := (t.run_queued_iff cloner p).1.mp ⟨job, h⟩
  obtain ⟨files, made, -⟩ := FetchTask.answer_done_iff.mp answer
  obtain rfl := FetchOutcome.queued.inj (h.symm.trans (FetchTask.run_taken answer opened).1)
  refine ⟨rfl, ?_⟩
  rw [FetchTask.calls, made]
  exact .head _

/-- Everything in a deployment works in the staging directory of one configuration. -/
structure Placement (config : FetchConfig) (trace : List Turn) (d : Deployment) : Prop where
  fetchers : ∀ f ∈ d.service.fetcher :: d.others, f.config = config
  staging : d.service.dispatcher.stagingDir = config.stagingDir
  begun : ∀ task ∈ begun trace, task.stagingDir = config.stagingDir ∧ PlainFolder task.folder
  tasks : ∀ task ∈ d.service.tasks, task ∈ Dispatch.begun trace
  queued : ∀ task job, (task, FetchOutcome.queued job) ∈ endings trace →
    task ∈ Dispatch.begun trace ∧ job.folder = task.folder ∧
      (task.url, task.dest) ∈ cloneCalls d.service.pipeline.history
  calls : ∀ call ∈ cloneCalls d.service.pipeline.history,
    ∃ task ∈ Dispatch.begun trace, call = (task.url, task.dest)

namespace Placement

variable {config : FetchConfig} {trace : List Turn} {d e : Deployment}

theorem start {config : ServiceConfig} {cloner : String} {reporters : List Reporter}
    {timing : Job → Timing} {files : FileTree} {s : Service}
    (h : Service.start config cloner reporters timing files = .ok s) :
    Placement config.fetch [] ⟨s, []⟩ := by
  unfold Service.start at h
  split at h
  · cases h
  · cases h
    constructor <;> simp [Dispatch.begun, endings, cloneCalls, Pipeline.start]

/-- A turn that begins no task and ends none has nothing cloned. -/
theorem quiet (v : Placement config trace d) {turn : Turn} (begins : turn.task? = none)
    (ends : turn.ending? = none) (fetchers : ∀ f ∈ e.service.fetcher :: e.others, f.config = config)
    (dispatcher : e.service.dispatcher = d.service.dispatcher)
    (tasks : e.service.tasks = d.service.tasks)
    (calls : cloneCalls e.service.pipeline.history = cloneCalls d.service.pipeline.history) :
    Placement config (trace ++ [turn]) e := by
  have hb : Dispatch.begun (trace ++ [turn]) = Dispatch.begun trace := by
    simp [-Turn.task?, begins]
  have he : endings (trace ++ [turn]) = endings trace := by simp [-Turn.ending?, ends]
  exact ⟨fetchers, dispatcher ▸ v.staging, hb ▸ v.begun, by rw [hb, tasks]; exact v.tasks,
    by rw [hb, he, calls]; exact v.queued, by rw [hb, calls]; exact v.calls⟩

theorem config_of_mem (v : Placement config trace d) {f : Fetcher} (held : f ∈ d.fetchers) :
    f.config = config := by
  refine v.fetchers f ?_
  rcases List.mem_append.mp held with own | other
  · split at own
    · exact List.mem_singleton.mp own ▸ .head _
    · cases own
  · exact .tail _ other

theorem submit (v : Placement config trace d) {f : Fetcher} (url : String) (held : f ∈ d.fetchers) :
    Placement config (trace ++ [.submitted url (d.service.submitTo f url).1])
      ⟨(d.service.submitTo f url).2, d.others⟩ := by
  cases answer : (f.accept d.service.pipeline url).1 with
  | error e =>
    rw [Service.submitTo_error _ answer]
    exact v.quiet rfl rfl v.fetchers rfl rfl rfl
  | ok task =>
    obtain ⟨judged, -, staging, -⟩ := Fetcher.accept_task answer
    have calls : cloneCalls (f.accept d.service.pipeline url).2.history =
        cloneCalls d.service.pipeline.history := by
      rw [(Fetcher.accept_tells answer).history, cloneCalls_append]
      exact List.append_nil _
    have placed : task.stagingDir = config.stagingDir ∧ PlainFolder task.folder :=
      ⟨by rw [staging, v.config_of_mem held], FetchConfig.judge_plain judged⟩
    rw [Service.submitTo_ok _ answer]
    have grown : Dispatch.begun (trace ++ [.submitted url (.ok task)]) =
        Dispatch.begun trace ++ [task] := by simp
    have same : endings (trace ++ [.submitted url (.ok task)]) = endings trace := by simp
    refine ⟨v.fetchers, v.staging, ?_, ?_, ?_, ?_⟩
    · rw [grown, List.forall_mem_append]
      exact ⟨v.begun, List.forall_mem_singleton.mpr placed⟩
    · rw [grown]
      exact fun t ht => (List.mem_append.mp ht).elim
        (fun old => List.mem_append_left _ (v.tasks t old)) (List.mem_append_right _)
    · rw [grown, same, calls]
      intro t job ended
      obtain ⟨old, folder, called⟩ := v.queued t job ended
      exact ⟨List.mem_append_left _ old, folder, called⟩
    · rw [grown, calls]
      intro call hcall
      obtain ⟨t, old, eq⟩ := v.calls call hcall
      exact ⟨t, List.mem_append_left _ old, eq⟩

theorem finish (v : Placement config trace d) {i : Nat} {task : FetchTask} {outcome : FetchOutcome}
    {after : Service} {cloner : Cloner} (underWay : d.service.tasks[i]? = some task)
    (ends : d.service.finish i cloner = some (outcome, after)) :
    Placement config (trace ++ [.ended task outcome]) ⟨after, d.others⟩ := by
  rw [Service.finish_eq _ underWay] at ends
  cases ends
  have mine := v.tasks task (List.mem_of_getElem? underWay)
  have same (outcome) : Dispatch.begun (trace ++ [.ended task outcome]) = Dispatch.begun trace := by
    simp
  have grown (outcome) : endings (trace ++ [.ended task outcome]) =
      endings trace ++ [(task, outcome)] := by simp
  refine ⟨v.fetchers, v.staging, ?_, ?_, ?_, ?_⟩
  · rw [same]
    exact v.begun
  · rw [same]
    exact fun t ht => v.tasks t (List.mem_of_mem_eraseIdx ht)
  · rw [same, grown, cloneCalls_run]
    intro t job ended
    rcases List.mem_append.mp ended with old | new
    · obtain ⟨begun, folder, called⟩ := v.queued t job old
      exact ⟨begun, folder, List.mem_append_left _ called⟩
    · obtain ⟨rfl, outcome⟩ := Prod.mk.inj (List.mem_singleton.mp new)
      obtain ⟨folder, called⟩ := called_of_queued outcome.symm
      exact ⟨mine, folder, List.mem_append_right _ called⟩
  · rw [same, cloneCalls_run]
    intro call hcall
    rcases List.mem_append.mp hcall with old | new
    · exact v.calls call old
    · exact ⟨task, mine, cloneCalls_calls _ _ call new⟩

theorem step (v : Placement config trace d) {turn : Turn} (h : d.Step turn e) :
    Placement config (trace ++ [turn]) e := by
  cases h with
  | submit url held => exact v.submit url held
  | finish cloner underWay ends => exact v.finish underWay ends
  | process next =>
    rw [Service.dispatchNext_eq _ next]
    exact v.quiet rfl rfl v.fetchers rfl rfl (cloneCalls_process _ _ _)
  | share held =>
    have config := v.config_of_mem held
    refine v.quiet rfl rfl ?_ rfl rfl rfl
    rw [← List.cons_append, List.forall_mem_append]
    exact ⟨v.fetchers, List.forall_mem_singleton.mpr config⟩
  | drop held =>
    refine v.quiet rfl rfl (fun f hf => v.fetchers f ?_) rfl rfl rfl
    exact List.mem_cons.mpr ((List.mem_cons.mp hf).imp_right List.mem_of_mem_eraseIdx)
  | stop held => exact v.quiet rfl rfl v.fetchers rfl rfl rfl

end Placement

theorem Deployment.Run.placement {config : FetchConfig} {d e : Deployment} {trace : List Turn}
    (v : Placement config [] d) (run : d.Run trace e) : Placement config trace e := by
  induction run with
  | refl => exact v
  | step _ h ih => exact ih.step h

/-- A task with a plain folder clones to one component below its staging directory. -/
theorem dest_components {task : FetchTask} (plain : PlainFolder task.folder) :
    task.dest.components =
      task.stagingDir.components ++ [.normal (Path.ofString task.folder).bytes] := by
  have single : Path.ofNames [(Path.ofString task.folder).bytes] = Path.ofString task.folder :=
    congrArg Files.Path.mk (Path.ofNames_singleton _)
  have joined : (task.stagingDir.join (Path.ofNames [(Path.ofString task.folder).bytes])).components =
      _ := Path.components_join (List.forall_mem_singleton.mpr plain.properName)
  rwa [single] at joined

/-- Whatever URL is accepted, with whatever host, policy and staging directory, its folder is
not empty, has no slash in it and is neither dot name, so its clone goes to the components of
the staging directory and then that one. In a service, whatever happens in it, cloners are
called for the places of accepted URLs alone; and a job that is queued comes of such a call, and
processing it, with whatever files, scans the tree at that place. -/
theorem clones_lie_in_staging_and_are_scanned_there :
    (∀ (f : Fetcher) (p : Pipeline) (url : String) (task : FetchTask),
      (f.accept p url).1 = .ok task →
        PlainFolder task.folder ∧
        task.dest = f.config.stagingDir.join (Path.ofString task.folder) ∧
        task.dest.components =
          f.config.stagingDir.components ++ [.normal (Path.ofString task.folder).bytes]) ∧
    ∀ (config : ServiceConfig) (cloner : String) (reporters : List Reporter)
      (timing : Job → Timing) (files : FileTree) (s : Service) (trace : List Turn)
      (d : Deployment), Service.start config cloner reporters timing files = .ok s →
        Deployment.Run ⟨s, []⟩ trace d →
        (∀ f ∈ d.fetchers, f.config = config.fetch) ∧
        (∀ url dest, .cloneCall url dest ∈ d.service.pipeline.history →
          ∃ task ∈ begun trace, url = task.url ∧ dest = task.dest ∧
            PlainFolder task.folder ∧ dest.components = config.fetch.stagingDir.components ++
              [.normal (Path.ofString task.folder).bytes]) ∧
        (∀ task job, (task, FetchOutcome.queued job) ∈ endings trace →
          task ∈ begun trace ∧ d.service.dispatcher.scanRoot job = task.dest ∧
            (∀ p, (d.service.dispatcher.process job p).1 =
              (d.service.dispatcher.scanner.scanTree p.files task.dest).result.map
                (d.service.dispatcher.reportOf job)) ∧
            .cloneCall task.url task.dest ∈ d.service.pipeline.history) ∧
        ∀ job ∈ processed trace, ∃ task, (task, FetchOutcome.queued job) ∈ endings trace := by
  constructor
  · intro f p url task accepted
    obtain ⟨judged, -, staging, -⟩ := Fetcher.accept_task accepted
    have plain := FetchConfig.judge_plain judged
    exact ⟨plain, by rw [FetchTask.dest, staging], staging ▸ dest_components plain⟩
  · intro config cloner reporters timing files s trace d started run
    have v := run.placement (.start started)
    have delivery := run.delivery (.start started)
    refine ⟨fun f held => v.config_of_mem held, ?_, ?_, ?_⟩
    · intro url dest called
      obtain ⟨task, begun, eq⟩ := v.calls _ (mem_cloneCalls.mpr called)
      obtain ⟨rfl, rfl⟩ := Prod.mk.inj eq
      obtain ⟨staging, plain⟩ := v.begun task begun
      exact ⟨task, begun, rfl, rfl, plain, staging ▸ dest_components plain⟩
    · intro task job ended
      obtain ⟨begun, folder, called⟩ := v.queued task job ended
      have place : d.service.dispatcher.scanRoot job = task.dest := by
        rw [Dispatcher.scanRoot, v.staging, folder, ← (v.begun task begun).1, FetchTask.dest]
      refine ⟨begun, place, fun p => ?_, mem_cloneCalls.mp called⟩
      rw [Dispatcher.process_result, place]
    · intro job scanned
      have taken : job ∈ queued trace := by
        rw [← delivery.flow.kept]
        exact List.mem_append_left _ scanned
      obtain ⟨⟨task, outcome⟩, ended, isJob⟩ := List.mem_filterMap.mp taken
      cases outcome with
      | queued j => exact ⟨task, Option.some.inj isJob ▸ ended⟩
      | failed e => cases isJob
      | notQueued e => cases isJob

/-- A URL is submitted, cloned and queued, and its job is scanned where it was cloned to. -/
theorem clones_lie_in_staging_and_are_scanned_there_below_current :
    (sampleFetcher.accept samplePipeline " git@github.com:o/r").1 = .ok sampleTask ∧
    sampleTask.dest.components = [.normal [114]] ∧
    ∃ trace d, Service.start sampleConfig "git" [] (fun _ => ⟨⟨0, 0⟩, ⟨0, 0⟩⟩) ⟨.emptyDir, []⟩ =
        .ok sampleService ∧
      Deployment.Run ⟨sampleService, []⟩ trace d ∧
      (sampleTask, FetchOutcome.queued ⟨"r", "git@github.com:o/r", 1⟩) ∈ endings trace ∧
      ∀ p, (d.service.dispatcher.process ⟨"r", "git@github.com:o/r", 1⟩ p).1 =
        (d.service.dispatcher.scanner.scanTree p.files sampleTask.dest).result.map
          (d.service.dispatcher.reportOf ⟨"r", "git@github.com:o/r", 1⟩) := by
  have started : Service.start sampleConfig "git" [] (fun _ => ⟨⟨0, 0⟩, ⟨0, 0⟩⟩) ⟨.emptyDir, []⟩ =
    .ok sampleService := rfl
  obtain ⟨placed, scanned⟩ := clones_lie_in_staging_and_are_scanned_there
  obtain ⟨-, -, components⟩ := placed _ _ _ _ sampleTask_accepted
  have submitted := (Deployment.Run.refl (d := ⟨sampleService, []⟩)).step
    (.submit "git@github.com:o/r" (show sampleService.fetcher ∈ _ from .head _))
  have run := submitted.step (.finish (steadyCloner (.done .cloned))
    (show _[0]? = some sampleTask by rfl) (by rfl))
  obtain ⟨-, -, ends, -⟩ := scanned _ _ _ _ _ _ _ _ started run
  obtain ⟨-, -, scans, -⟩ := ends sampleTask ⟨"r", "git@github.com:o/r", 1⟩ (.head _)
  exact ⟨sampleTask_accepted, components.trans (by decide +kernel), _, _, started, run, .head _,
    scans⟩

end ImportWeights.Dispatch
