import Mathlib.Logic.Relation
import ImportWeights.Proofs.Dispatch.Stopping
import ImportWeights.Session

/-! # One-shot sessions

A session without a server submits its URLs in turn and then waits for the accepted ones, again
in turn. Meanwhile the tasks end in any order, with any cloner, and the dispatcher processes
their jobs. `Account` relates a session to what it has submitted and heard of; each kind of step
keeps it. When nothing is left to submit or to wait for, no task is under way and every outcome
was heard (`Account.settled`). The session that lets one task end after the other and processes its
job at once is one of these (`run_oneShot`). -/

namespace ImportWeights

open ImportWeights.Dispatch ImportWeights.Fetch ImportWeights.Jobs ImportWeights.Logging
open ImportWeights.Repository Relation

namespace Session

variable {s : Session} {url : String}

theorem submit_error {e : ValidationError}
    (answer : (s.service.fetcher.accept s.service.pipeline url).1 = .error e) :
    s.submit url = (s.logging (errorInContext e "Rejected repository URL")).failing := by
  rw [submit, Service.submit, s.service.submitTo_error answer]

theorem submit_ok {task : FetchTask}
    (answer : (s.service.fetcher.accept s.service.pipeline url).1 = .ok task) :
    s.submit url = { s with service := (s.service.submit url).2 } := by
  simp only [submit, Service.submit, s.service.submitTo_ok answer]

theorem submit_tasks (s : Session) (url : String) : (s.submit url).service.tasks =
    s.service.tasks ++ (s.service.submit url).1.toOption.toList := by
  cases answer : (s.service.fetcher.accept s.service.pipeline url).1 with
  | error e =>
    rw [submit_error answer, Service.submit, s.service.submitTo_error answer]
    exact (List.append_nil _).symm
  | ok task =>
    rw [submit_ok answer, Service.submit, s.service.submitTo_ok answer]
    rfl

end Session

/-- `toSubmit` are the URLs that have not been submitted yet, `tickets` the accepted tasks that
have not been waited for, and `unheard` those that have ended unheard, with their outcomes. -/
structure OneShot where
  session : Session
  toSubmit : List String
  tickets : List FetchTask
  unheard : List (FetchTask × FetchOutcome)

namespace OneShot

def begin (service : Service) (urls : List String) : OneShot := ⟨.begin service, urls, [], []⟩

def withService (o : OneShot) (service : Service) : OneShot :=
  { o with session := { o.session with service } }

section Fields

variable (o : OneShot) (service : Service)

@[simp] theorem withService_service : (o.withService service).session.service = service := rfl
@[simp] theorem withService_toSubmit : (o.withService service).toSubmit = o.toSubmit := rfl
@[simp] theorem withService_tickets : (o.withService service).tickets = o.tickets := rfl
@[simp] theorem withService_unheard : (o.withService service).unheard = o.unheard := rfl

end Fields

/-- Whether nothing is left to submit or to wait for. -/
def IsOver (o : OneShot) : Prop := o.toSubmit = [] ∧ o.tickets = []

/-- A ticket is waited for once all URLs were submitted, and goes on when its task has ended. -/
inductive Step (o : OneShot) : OneShot → Prop where
  | submit {url : String} {rest : List String} (next : o.toSubmit = url :: rest) :
      Step o { o with
        session := o.session.submit url, toSubmit := rest
        tickets := o.tickets ++ (o.session.service.submit url).1.toOption.toList }
  | finish {i : Nat} {task : FetchTask} {outcome : FetchOutcome} {after : Service}
      (cloner : Cloner) (underWay : o.session.service.tasks[i]? = some task)
      (ends : o.session.service.finish i cloner = some (outcome, after)) :
      Step o { o.withService after with unheard := o.unheard ++ [(task, outcome)] }
  | process {job : Job} (next : o.session.service.pipeline.queue.receive.1 = .job job) :
      Step o (o.withService o.session.service.dispatchNext)
  | hear {task : FetchTask} {rest : List FetchTask} {outcome : FetchOutcome}
      {before after : List (FetchTask × FetchOutcome)} (submitted : o.toSubmit = [])
      (ticket : o.tickets = task :: rest) (ended : o.unheard = before ++ (task, outcome) :: after) :
      Step o { o with
        session := o.session.hear task outcome, tickets := rest, unheard := before ++ after }

abbrev Run : OneShot → OneShot → Prop := ReflTransGen Step

/-- `sent` are the URLs that were submitted, `heard` the tasks that were waited for, and `trace`
is what the service has shown meanwhile. -/
structure Account (fetcher : Fetcher) (urls : List String) (trace : List Turn)
    (sent : List String) (heard : List (FetchTask × FetchOutcome)) (o : OneShot) : Prop where
  serving : Serving fetcher trace o.session.service
  submitted : urls = sent ++ o.toSubmit
  accepted : (begun trace).map (·.url) = (sent.filter fetcher.accepts).map Text.trim
  tickets : begun trace = heard.map (·.1) ++ o.tickets
  endings : (endings trace).Perm (heard ++ o.unheard)
  healthy : o.session.healthy = (sent.all fetcher.accepts && heard.all (·.2.job?.isSome))

namespace Account

variable {fetcher : Fetcher} {urls sent : List String} {trace : List Turn}
  {heard : List (FetchTask × FetchOutcome)} {o : OneShot}

theorem begin {service : Service} (v : Serving service.fetcher [] service) (urls : List String) :
    Account service.fetcher urls [] [] [] (.begin service urls) :=
  ⟨v, rfl, rfl, rfl, .nil, rfl⟩

/-- A rejected URL makes the session fail and leaves the service as it is; an accepted one gives
a ticket. -/
theorem submit (a : Account fetcher urls trace sent heard o) {url : String} {rest : List String}
    (next : o.toSubmit = url :: rest) :
    Account fetcher urls
      (trace ++ [.submitted url (o.session.service.submitTo o.session.service.fetcher url).1])
      (sent ++ [url]) heard
      { o with
        session := o.session.submit url, toSubmit := rest
        tickets := o.tickets ++ (o.session.service.submit url).1.toOption.toList } := by
  have mine : o.session.service.fetcher ∈ (⟨o.session.service, []⟩ : Deployment).fetchers := by
    simp [Deployment.fetchers, a.serving.held]
  have serving := a.serving.step (.submit url mine) rfl
  have submitted : urls = (sent ++ [url]) ++ rest := by simp [a.submitted, next]
  cases answer : (o.session.service.fetcher.accept o.session.service.pipeline url).1 with
  | error e =>
    have rejects : fetcher.accepts url = false :=
      a.serving.fetcher ▸ Fetcher.accepts_of_error answer
    have refused := o.session.service.submitTo_error answer
    rw [refused] at serving ⊢
    rw [Session.submit_error answer, Service.submit, refused]
    exact ⟨serving.logging _, submitted, by simp [a.accepted, rejects],
      by simp [a.tickets, Except.toOption], by simpa using a.endings,
      by simp [Session.failing, rejects]⟩
  | ok task =>
    have accepts : fetcher.accepts url = true :=
      a.serving.fetcher ▸ Fetcher.accepts_of_ok answer
    obtain ⟨-, trimmed, -, -⟩ := Fetcher.accept_task answer
    have taken := o.session.service.submitTo_ok answer
    rw [taken] at serving ⊢
    rw [Session.submit_ok answer, Service.submit, taken]
    exact ⟨serving, submitted, by simp [a.accepted, trimmed, accepts],
      by simp [a.tickets, Except.toOption], by simpa using a.endings,
      by simp [a.healthy, accepts]⟩

theorem finish (a : Account fetcher urls trace sent heard o) {i : Nat} {task : FetchTask}
    {outcome : FetchOutcome} {after : Service} {cloner : Cloner}
    (underWay : o.session.service.tasks[i]? = some task)
    (ends : o.session.service.finish i cloner = some (outcome, after)) :
    Account fetcher urls (trace ++ [.ended task outcome]) sent heard
      { o.withService after with unheard := o.unheard ++ [(task, outcome)] } := by
  refine ⟨a.serving.step (.finish cloner underWay ends) rfl, a.submitted, by simpa using a.accepted,
    by simpa using a.tickets, ?_, a.healthy⟩
  simpa using a.endings.append_right [(task, outcome)]

theorem process (a : Account fetcher urls trace sent heard o) {job : Job}
    (next : o.session.service.pipeline.queue.receive.1 = .job job) :
    Account fetcher urls (trace ++ [.processed job]) sent heard
      (o.withService o.session.service.dispatchNext) :=
  ⟨a.serving.step (.process next) rfl, a.submitted, by simpa using a.accepted,
    by simpa using a.tickets, by simpa using a.endings, a.healthy⟩

/-- A task that was heard of counts as queued or makes the session fail. -/
theorem hear (a : Account fetcher urls trace sent heard o) {task : FetchTask}
    {rest : List FetchTask} {outcome : FetchOutcome}
    {before after : List (FetchTask × FetchOutcome)} (ticket : o.tickets = task :: rest)
    (ended : o.unheard = before ++ (task, outcome) :: after) :
    Account fetcher urls trace sent (heard ++ [(task, outcome)])
      { o with
        session := o.session.hear task outcome, tickets := rest, unheard := before ++ after } := by
  refine ⟨a.serving.logging _, a.submitted, a.accepted, by simp [a.tickets, ticket], ?_,
    by simp [Session.hear, a.healthy, Bool.and_assoc]⟩
  rw [List.append_assoc, List.singleton_append]
  exact a.endings.trans (ended ▸ List.perm_middle.append_left heard)

theorem step (a : Account fetcher urls trace sent heard o) {o' : OneShot} (h : o.Step o') :
    ∃ trace sent heard, Account fetcher urls trace sent heard o' := by
  cases h with
  | submit next => exact ⟨_, _, _, a.submit next⟩
  | finish cloner underWay ends => exact ⟨_, _, _, a.finish underWay ends⟩
  | process next => exact ⟨_, _, _, a.process next⟩
  | hear _ ticket ended => exact ⟨_, _, _, a.hear ticket ended⟩

/-- At the end no task is under way, and all outcomes were heard. -/
theorem settled (a : Account fetcher urls trace sent heard o) (isOver : o.IsOver) :
    o.session.service.tasks = [] ∧
    acceptedUrls o.session.service.pipeline.history =
      (urls.filter fetcher.accepts).map Text.trim ∧
    o.session.service.ended.length = (urls.filter fetcher.accepts).length ∧
    (o.session.healthy = true ↔ (∀ url ∈ urls, fetcher.accepts url = true) ∧
      ∀ outcome ∈ o.session.service.ended, ∃ job, outcome = .queued job) := by
  obtain ⟨toSubmit, noTicket⟩ := isOver
  have sent : sent = urls := by simp [a.submitted, toSubmit]
  have begun : begun trace = heard.map (·.1) := by simp [a.tickets, noTicket]
  -- no more tasks have begun than were heard of, so none is under way and none ended unheard
  have lengths := a.serving.delivery.tasks.length_eq
  have ended := a.endings.length_eq
  rw [begun] at lengths
  simp only [List.length_append, List.length_map] at lengths ended
  have tasks : o.session.service.tasks = [] := List.length_eq_zero_iff.mp (by omega)
  have unheard : o.unheard = [] := List.length_eq_zero_iff.mp (by omega)
  have heardAll : o.session.service.ended.Perm (heard.map (·.2)) := by
    simpa [a.serving.tally.ended, unheard] using a.endings.map (·.2)
  have accepted : (heard.map (·.1)).map (·.url) = (urls.filter fetcher.accepts).map Text.trim := by
    rw [← begun, a.accepted, sent]
  refine ⟨tasks, ?_, ?_, ?_⟩
  · rw [a.serving.tally.accepted, begun, accepted]
  · simpa [heardAll.length_eq] using congrArg List.length accepted
  · rw [a.healthy, sent, Bool.and_eq_true, List.all_eq_true, List.all_eq_true]
    simp only [heardAll.mem_iff, List.forall_mem_map, FetchOutcome.isSome_job?_iff]

end Account

theorem Run.account {service : Service} {urls : List String} {o : OneShot}
    (v : Serving service.fetcher [] service) (run : Run (.begin service urls) o) :
    ∃ trace sent heard, Account service.fetcher urls trace sent heard o := by
  induction run with
  | refl => exact ⟨_, _, _, .begin v urls⟩
  | tail _ h ih =>
    obtain ⟨_, _, _, a⟩ := ih
    exact a.step h

/-! ## Every session comes to its end -/

theorem exists_submitted (o : OneShot) : ∃ o', o.Run o' ∧ o'.toSubmit = [] := by
  generalize h : o.toSubmit = urls
  induction urls generalizing o with
  | nil => exact ⟨o, .refl, h⟩
  | cons url rest ih =>
    obtain ⟨p, next, left⟩ : ∃ p, o.Step p ∧ p.toSubmit = rest := ⟨_, .submit h, rfl⟩
    obtain ⟨o', run, submitted⟩ := ih p left
    exact ⟨o', .head next run, submitted⟩

theorem exists_idle (cloner : Cloner) (o : OneShot) :
    ∃ o', o.Run o' ∧ o'.toSubmit = o.toSubmit ∧ o'.session.service.tasks = [] := by
  generalize h : o.session.service.tasks = tasks
  induction tasks generalizing o with
  | nil => exact ⟨o, .refl, rfl, h⟩
  | cons task rest ih =>
    have underWay : o.session.service.tasks[0]? = some task := by simp [h]
    have ends := o.session.service.finish_eq underWay cloner
    obtain ⟨p, next, left, same⟩ : ∃ p, o.Step p ∧ p.session.service.tasks = rest ∧
        p.toSubmit = o.toSubmit :=
      ⟨_, .finish cloner underWay ends, congrArg (List.eraseIdx · 0) h, rfl⟩
    obtain ⟨o', run, kept, idle⟩ := ih p left
    exact ⟨o', .head next run, kept.trans same, idle⟩

/-- Where every ticket is that of a task that has ended, all of them can be heard of. -/
theorem exists_heard {o : OneShot} (submitted : o.toSubmit = [])
    (h : o.tickets.Perm (o.unheard.map (·.1))) : ∃ o', o.Run o' ∧ o'.IsOver := by
  generalize ticket : o.tickets = tickets at h
  induction tickets generalizing o with
  | nil => exact ⟨o, .refl, submitted, ticket⟩
  | cons task rest ih =>
    obtain ⟨⟨_, outcome⟩, mem, rfl⟩ := List.mem_map.mp (h.subset List.mem_cons_self)
    obtain ⟨before, after, ended⟩ := List.append_of_mem mem
    have left : rest.Perm ((before ++ after).map (·.1)) := by
      rw [ended, List.map_append, List.map_cons] at h
      rw [List.map_append]
      exact (h.trans List.perm_middle).cons_inv
    obtain ⟨p, next, same, tickets, unheard⟩ : ∃ p, o.Step p ∧ p.toSubmit = o.toSubmit ∧
        p.tickets = rest ∧ p.unheard = before ++ after :=
      ⟨_, .hear submitted ticket ended, rfl, rfl, rfl⟩
    obtain ⟨o', run, isOver⟩ := ih (same.trans submitted) tickets (unheard ▸ left)
    exact ⟨o', .head next run, isOver⟩

theorem Run.exists_over {service : Service} {urls : List String} {o : OneShot}
    (v : Serving service.fetcher [] service) (run : Run (.begin service urls) o)
    (cloner : Cloner) : ∃ o', o.Run o' ∧ o'.IsOver := by
  obtain ⟨o₁, first, submitted⟩ := o.exists_submitted
  obtain ⟨o₂, second, same, idle⟩ := o₁.exists_idle cloner
  obtain ⟨_, _, _, a⟩ := Run.account v (run.trans (first.trans second))
  -- with no task under way, those that have ended unheard are those with a ticket
  have tickets := (a.tickets ▸ a.serving.delivery.tasks).trans
    ((a.endings.map Prod.fst).append_right _)
  rw [idle, List.append_nil, List.map_append, List.perm_append_left_iff] at tickets
  obtain ⟨o₃, third, isOver⟩ := exists_heard (same.trans submitted) tickets
  exact ⟨o₃, (first.trans second).trans third, isOver⟩

/-! ## A schedule -/

theorem run_dispatchAll (o : OneShot) : o.Run (o.withService o.session.service.dispatchAll) :=
  Service.dispatchAll_keeps (P := fun service => o.Run (o.withService service)) .refl
    fun _ _ run next => run.tail (.process next)

/-- Waiting for the oldest task lets it end, hears of it, and processes what is queued. -/
theorem await_eq {s : Session} {task : FetchTask} {rest : List FetchTask} {outcome : FetchOutcome}
    {service : Service} {cloner : Cloner} (tasks : s.service.tasks = task :: rest)
    (ends : s.service.finish 0 cloner = some (outcome, service)) :
    let heard := ({ s with service } : Session).hear task outcome
    s.await cloner = { heard with service := heard.service.dispatchAll } := by
  simp only [Session.await, tasks, List.head?_cons, ends]

theorem run_await {s : Session} {task : FetchTask} {rest : List FetchTask}
    (tasks : s.service.tasks = task :: rest) (cloner : Cloner) :
    (s.await cloner).service.tasks = rest ∧
      Run ⟨s, [], task :: rest, []⟩ ⟨s.await cloner, [], rest, []⟩ := by
  have underWay : s.service.tasks[0]? = some task := by simp [tasks]
  have ends := s.service.finish_eq underWay cloner
  generalize (task.run cloner s.service.pipeline).1 = outcome at ends
  generalize after : ({ s.service with
    pipeline := (task.run cloner s.service.pipeline).2, tasks := s.service.tasks.eraseIdx 0
    ended := s.service.ended ++ [outcome] } : Service) = service at ends
  let heard := ({ s with service } : Session).hear task outcome
  have left : service.tasks = rest := by simp [← after, tasks]
  have finished : Run ⟨s, [], task :: rest, []⟩
    ⟨{ s with service }, [], task :: rest, [(task, outcome)]⟩ :=
      .single (.finish cloner underWay ends)
  have told : Step ⟨{ s with service }, [], task :: rest, [(task, outcome)]⟩
    ⟨heard, [], rest, []⟩ := @Step.hear _ task rest outcome [] [] rfl rfl rfl
  rw [await_eq tasks ends]
  exact ⟨heard.service.dispatchAll_fetches.1.trans left,
    (finished.tail told).trans (run_dispatchAll _)⟩

/-- Waiting as often as there are tasks leaves none. -/
theorem run_awaitAll (course : Course) (times : List Nat) {s : Session}
    (h : times.length = s.service.tasks.length) :
    Run ⟨s, [], s.service.tasks, []⟩
      ⟨times.foldl (fun s i => s.await (course.cloner i)) s, [], [], []⟩ := by
  induction times generalizing s with
  | nil =>
    rw [List.length_eq_zero_iff.mp h.symm]
    exact .refl
  | cons i times ih =>
    obtain ⟨task, rest, tasks⟩ := List.exists_cons_of_length_eq_add_one h.symm
    obtain ⟨left, first⟩ := run_await tasks (course.cloner i)
    rw [tasks]
    have more := ih (s := s.await (course.cloner i)) (by simpa [tasks, left] using h)
    rw [left] at more
    exact first.trans more

theorem run_submitAll (urls : List String) (s : Session) :
    Run ⟨s, urls, s.service.tasks, []⟩
      ⟨s.submitAll urls, [], (s.submitAll urls).service.tasks, []⟩ := by
  induction urls generalizing s with
  | nil => exact .refl
  | cons url urls ih =>
    have first : Step ⟨s, url :: urls, s.service.tasks, []⟩
      ⟨s.submit url, urls, s.service.tasks ++ (s.service.submit url).1.toOption.toList, []⟩ :=
        .submit rfl
    rw [← Session.submit_tasks] at first
    rw [Session.submitAll, List.foldl_cons]
    exact .head first (ih (s.submit url))

/-- The session that lets one task end after the other is among the one-shot sessions. -/
theorem run_oneShot {service : Service} (idle : service.tasks = []) (course : Course)
    (urls : List String) : Run (.begin service urls)
      ⟨((Session.begin service).submitAll urls).awaitAll course, [], [], []⟩ := by
  have submitting := run_submitAll urls (.begin service)
  have awaiting := run_awaitAll course
    (List.range ((Session.begin service).submitAll urls).service.tasks.length)
    List.length_range
  have run := submitting.trans awaiting
  rwa [Session.begin, idle] at run

end OneShot

end ImportWeights
