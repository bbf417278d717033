import ImportWeights.Proofs.Dispatch.Delivery
import ImportWeights.Proofs.Fetch.Outcome
import ImportWeights.Session

/-! # Submissions at the front door

A request that submits a URL ends in one of two ways (`respond_cases`). If its body carries a
URL that is accepted, that is told and one task begins; if not, a line is logged and that is
all. Which of the two it is, and the response, depend on the configuration of the fetcher and
on the request. So what cloners, files, queue and subscribers do, before or later, shows in no
response. -/

namespace ImportWeights.Http

open ImportWeights.Dispatch ImportWeights.Fetch ImportWeights.Logging

variable {f f' : Fetcher} {p p' : Pipeline} {r : Request}

/-- Whether a request carries a URL, and this is accepted. -/
def Request.Accepted (r : Request) (f : Fetcher) (p : Pipeline) : Prop :=
  ∃ url task, r.url? = .ok url ∧ (f.accept p url).1 = .ok task

theorem submit_of_accepted {url : String} {task : FetchTask}
    (accepted : (f.accept p url).1 = .ok task) : submit f p (.ok url) =
      ⟨acceptedResponse, some task, (f.accept p url).2.logging
        [debug (.server 69) ("fetch of '" ++ task.folder ++ "' running in the background")]⟩ := by
  cases accepting : f.accept p url with
  | mk answer after =>
    rw [accepting] at accepted
    dsimp only at accepted
    subst accepted
    unfold submit
    simp only [accepting]

theorem submit_of_refused {url : String} {e : Repository.ValidationError}
    (refused : (f.accept p url).1 = .error e) : submit f p (.ok url) =
      ⟨statusResponse 400 e.message, none,
        p.logging [warn (.server 73) ("could not fetch project: " ++ e.message)]⟩ := by
  have accepting : f.accept p url = (.error e, p) := Prod.ext refused (Fetcher.accept_error refused)
  unfold submit
  simp only [accepting]

theorem respond_of_post (post : r.method = "POST") (root : routePath r.path = "/") :
    respond f p r = submit f p r.url? := by
  simp [respond, post, root]

/-- All that a submission can do. -/
theorem respond_cases (f : Fetcher) (p : Pipeline) (post : r.method = "POST")
    (root : routePath r.path = "/") :
    (∃ url task entries, r.url? = .ok url ∧ (f.accept p url).1 = .ok task ∧
      respond f p r = ⟨acceptedResponse, some task, (f.accept p url).2.logging entries⟩) ∨
    (¬ r.Accepted f p ∧ ∃ message entries,
      respond f p r = ⟨statusResponse 400 message, none, p.logging entries⟩) := by
  rw [respond_of_post post root]
  cases body : r.url? with
  | error rejection =>
    refine .inr ⟨?_, _, _, rfl⟩
    rintro ⟨url, task, carried, -⟩
    rw [body] at carried
    cases carried
  | ok url =>
    cases answer : (f.accept p url).1 with
    | ok task => exact .inl ⟨url, task, _, rfl, answer, submit_of_accepted answer⟩
    | error e =>
      refine .inr ⟨?_, _, _, submit_of_refused answer⟩
      rintro ⟨url', task, carried, accepted⟩
      rw [body] at carried
      cases carried
      rw [answer] at accepted
      cases accepted

/-- Of a fetcher, only its configuration shows in a response. -/
theorem respond_response (same : f'.config = f.config) :
    (respond f' p' r).response = (respond f p r).response := by
  have submitted (body : Except BodyRejection String) :
      (submit f' p' body).response = (submit f p body).response := by
    cases body with
    | error rejection => rfl
    | ok url =>
      have answer := Fetcher.accept_answer f p url
      have answer' := Fetcher.accept_answer f' p' url
      rw [same] at answer'
      cases judged : f.config.judge (Text.trim url) with
      | error e =>
        rw [judged] at answer answer'
        rw [submit_of_refused answer, submit_of_refused answer']
      | ok folder =>
        rw [judged] at answer answer'
        rw [submit_of_accepted answer, submit_of_accepted answer']
  unfold respond
  split
  · rfl
  split
  · rfl
  split
  · rfl
  split
  · exact submitted _
  · rfl

/-- The service after a submission that is answered with 400. -/
theorem request_of_refused {s : Session} {message : String} {entries : Log}
    (refused : respond s.service.fetcher s.service.pipeline r =
      ⟨statusResponse 400 message, none, s.service.pipeline.logging entries⟩) :
    (s.request r).service = { s.service with pipeline := s.service.pipeline.logging entries } := by
  simp only [Session.request, refused, Option.toList_none, List.append_nil]

/-- The service after a submission that is answered with 200. -/
theorem request_of_accepted {s : Session} {url : String} {task : FetchTask} {entries : Log}
    (taken : respond s.service.fetcher s.service.pipeline r = ⟨acceptedResponse, some task,
      (s.service.fetcher.accept s.service.pipeline url).2.logging entries⟩) :
    (s.request r).service.tasks = s.service.tasks ++ [task] ∧ (s.request r).service.pipeline =
      (s.service.fetcher.accept s.service.pipeline url).2.logging entries := by
  simp only [Session.request, taken, Option.toList_some, and_self]

/-- A URL that is accepted is told, and files and jobs stay. -/
theorem accept_keeps {url : String} {task : FetchTask} {entries : Log} {after : Pipeline}
    (accepted : (f.accept p url).1 = .ok task)
    (next : after = (f.accept p url).2.logging entries) :
    p.Tells after [.event (task.event .accepted none)] ∧ after.files = p.files ∧
      after.queue.waiting = p.queue.waiting ∧ after.queue.pending = p.queue.pending ∧
      after.queue.nextSequence = p.queue.nextSequence := by
  have told := (Fetcher.accept_tells accepted).logging entries
  have queue : after.queue = (p.queue.clonePublisher f.handle).2 := by
    rw [next, Pipeline.logging_queue, Fetcher.accept_queue accepted]
  have files : after.files = p.files := by
    rw [next, Pipeline.logging_files, Fetcher.accept_files]
  rw [queue]
  exact ⟨next ▸ told, files, rfl, rfl, rfl⟩

/-- A submission is judged when it comes, and by nothing but the configuration. It is answered
with 200 if its body carries a URL that is accepted, and otherwise with 400. After a 400 the
service is what it was but for lines in the log, and so it is after any URL that is refused.
After a 200 one task has begun, for the trimmed URL, and it was told as accepted; that is all
that was told, nothing was cloned yet, and the queue has the same jobs. Another service with
this configuration gives the same response, in whatever state it is; so does this one after
whatever turns it takes, with any cloners. -/
theorem submission_is_judged_at_once (s : Session) (r : Request) (post : r.method = "POST")
    (root : routePath r.path = "/") :
    let p := s.service.pipeline
    let answered (s : Service) := (respond s.fetcher s.pipeline r).response
    let after := (s.request r).service
    ((answered s.service).status = 200 ↔ r.Accepted s.service.fetcher p) ∧
    ((answered s.service).status = 400 ↔ ¬ r.Accepted s.service.fetcher p) ∧
    ((answered s.service).status = 400 →
      ∃ entries, after = { s.service with pipeline := p.logging entries }) ∧
    (∀ f url e, (s.service.submitTo f url).1 = .error e →
      (s.service.submitTo f url).2 = s.service) ∧
    ((answered s.service).status = 200 → ∃ url task, r.url? = .ok url ∧
      task.url = Text.trim url ∧ after.tasks = s.service.tasks ++ [task] ∧
      p.Tells after.pipeline [.event (task.event .accepted none)] ∧
      after.pipeline.files = p.files ∧ after.pipeline.queue.waiting = p.queue.waiting ∧
      after.pipeline.queue.pending = p.queue.pending ∧
      after.pipeline.queue.nextSequence = p.queue.nextSequence) ∧
    (∀ s' : Service, s'.fetcher.config = s.service.fetcher.config →
      answered s' = answered s.service) ∧
    ∀ others trace d, Deployment.Run ⟨after, others⟩ trace d →
      answered d.service = answered s.service := by
  intro p answered after
  have again (s' : Service) (same : s'.fetcher.config = s.service.fetcher.config) :
      answered s' = answered s.service := respond_response same
  have later (others trace d) (run : Deployment.Run ⟨after, others⟩ trace d) :
      answered d.service = answered s.service := again _ (congrArg _ run.fetcher_eq)
  obtain ⟨url, task, entries, carried, accepted, taken⟩ | ⟨not, message, entries, refused⟩ :=
    respond_cases s.service.fetcher p post root
  · have answer : (answered s.service).status = 200 :=
      congrArg (fun answer => answer.response.status) taken
    have good : r.Accepted s.service.fetcher p := ⟨url, task, carried, accepted⟩
    obtain ⟨tasks, next⟩ := request_of_accepted taken
    have notBad : (answered s.service).status ≠ 400 := by
      rw [answer]
      decide
    refine ⟨iff_of_true answer good, iff_of_false notBad (not_not_intro good),
      fun bad => absurd bad notBad, fun _ _ _ => Service.submitTo_refused, ?_, again, later⟩
    intro _
    exact ⟨url, task, carried, (Fetcher.accept_task accepted).2.1, tasks,
      accept_keeps accepted next⟩
  · have answer : (answered s.service).status = 400 :=
      congrArg (fun answer => answer.response.status) refused
    have notGood : (answered s.service).status ≠ 200 := by
      rw [answer]
      decide
    have next := request_of_refused refused
    refine ⟨iff_of_false notGood not, iff_of_true answer not, ?_,
      fun _ _ _ => Service.submitTo_refused, fun good => absurd good notGood, again, later⟩
    intro _
    exact ⟨entries, next⟩

def submissionOf (url : String) : Request :=
  ⟨"POST", "/", some "application/json", Text.Utf8.ofString ("\x7b\"url\":\"" ++ url ++ "\"\x7d")⟩

theorem submissionOf_carries :
    (submissionOf " git@github.com:o/r").url? = .ok " git@github.com:o/r" := by
  decide +kernel

theorem submissionOf_accepted :
    (submissionOf " git@github.com:o/r").Accepted sampleService.fetcher sampleService.pipeline :=
  ⟨_, sampleTask, submissionOf_carries, rfl⟩

/-- The URL comes with a blank, and its task has the URL without it. -/
theorem submission_is_judged_at_once_trimmed :
    let r := submissionOf " git@github.com:o/r"
    r.method = "POST" ∧ routePath r.path = "/" ∧
    (respond sampleService.fetcher sampleService.pipeline r).response.status = 200 ∧
    ∃ task, ((Session.begin sampleService).request r).service.tasks = [task] ∧
      task.url = "git@github.com:o/r" := by
  intro r
  have root : routePath r.path = "/" := by decide
  obtain ⟨ok, -, -, -, begun, -, -⟩ :=
    submission_is_judged_at_once (Session.begin sampleService) r rfl root
  have status := ok.mpr submissionOf_accepted
  obtain ⟨url, task, carried, trimmed, tasks, -⟩ := begun status
  rw [submissionOf_carries] at carried
  cases carried
  exact ⟨rfl, root, status, task, tasks, trimmed⟩

end ImportWeights.Http
