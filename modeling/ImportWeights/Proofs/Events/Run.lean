import Mathlib.Data.List.Basic
import Mathlib.Data.List.TakeWhile
import ImportWeights.Events.Hub

/-! Runs of the hub. Anyone subscribes, ends a subscription or publishes, and whoever holds a
receiver drains or drops it, in any order. A run is kept with every answer that was given;
which events a receiver was to see is then a matter of the run alone. -/

namespace ImportWeights.Events.Hub

open ImportWeights.Logging

/-- What can be asked of the hub and of the receivers it gave out, which go by their numbers. -/
inductive Operation where
  | subscribe (id : String) (filter : EventFilter) (source : String)
  | unsubscribe (id : String)
  | publish (event : Event)
  | notify (event : Event)
  | drain (receiver : Nat)
  | dropReceiver (receiver : Nat)
deriving DecidableEq, Repr

inductive Answer where
  /-- The number of the new receiver. -/
  | subscribed (receiver : Nat)
  | unsubscribed (found : Bool)
  | published (result : Except NotificationError Unit)
  | drained (events : List Event)
  | done

structure Reply where
  answer : Answer
  hub : Hub
  log : Log

/-- Carries an operation out, unless the receiver it needs is no longer held. -/
def perform (h : Hub) : Operation → Option Reply
  | .subscribe id filter source =>
    let (receiver, hub, log) := h.subscribe id filter source
    some ⟨.subscribed receiver, hub, log⟩
  | .unsubscribe id => some ⟨.unsubscribed (h.unsubscribe id).1, (h.unsubscribe id).2, []⟩
  | .publish e => some ⟨.published (h.publish e).1, (h.publish e).2, []⟩
  | .notify e => some ⟨.done, (h.notify e).1, (h.notify e).2⟩
  | .drain receiver => (h.drain receiver).map fun (events, hub) => ⟨.drained events, hub, []⟩
  | .dropReceiver receiver =>
    if h.isHeld receiver then some ⟨.done, h.dropReceiver receiver, []⟩ else none

/-- An operation that was carried out, with what it answered. -/
structure Step where
  operation : Operation
  answer : Answer

/-- The steps that lead from one hub to another. -/
inductive Run (start : Hub) : List Step → Hub → Prop where
  | start : Run start [] start
  | step {past : List Step} {h : Hub} {op : Operation} {reply : Reply} :
      Run start past h → h.perform op = some reply →
      Run start (past ++ [⟨op, reply.answer⟩]) reply.hub

/-- The event that a step published. -/
def Step.published? (s : Step) : Option Event :=
  match s.operation with
  | .publish e => some e
  | .notify e => some e
  | _ => none

/-- Whether a step ends the subscription of an id: by taking it away, or by putting another
one in its place. -/
def Step.ends (id : String) (s : Step) : Bool :=
  match s.operation with
  | .subscribe other _ _ => other = id
  | .unsubscribe other => other = id
  | _ => false

/-- What a step took out of a receiver. -/
def Step.drained (receiver : Nat) (s : Step) : List Event :=
  match s.operation, s.answer with
  | .drain r, .drained events => if r = receiver then events else []
  | _, _ => []

/-- The events taken out of a receiver, in that order. -/
def drained (receiver : Nat) (steps : List Step) : List Event :=
  steps.flatMap (·.drained receiver)

/-- The events published before the first step that ends the subscription of an id. -/
def publishedUntilEnd (id : String) (steps : List Step) : List Event :=
  (steps.takeWhile fun s => !s.ends id).filterMap Step.published?

def GivenOut (steps : List Step) (receiver : Nat) : Prop :=
  ∃ id filter source, ⟨.subscribe id filter source, .subscribed receiver⟩ ∈ steps

def Dropped (steps : List Step) (receiver : Nat) : Prop :=
  ∃ s ∈ steps, s.operation = .dropReceiver receiver

def Ended (steps : List Step) (id : String) : Prop :=
  ∃ s ∈ steps, s.ends id = true

/-- The events that wait in a receiver. -/
def waitingFor (h : Hub) (receiver : Nat) : List Event :=
  match h.receivers[receiver]? with
  | some r => r.waiting
  | none => []

section Append

variable {steps : List Step} {s : Step} {receiver : Nat} {id : String}

@[simp] theorem drained_append_one :
    drained receiver (steps ++ [s]) = drained receiver steps ++ s.drained receiver := by
  simp [drained]

theorem givenOut_append_one :
    GivenOut (steps ++ [s]) receiver ↔ GivenOut steps receiver ∨
      ∃ id filter source, s = ⟨.subscribe id filter source, .subscribed receiver⟩ := by
  simp [GivenOut, exists_or, eq_comm]

@[simp] theorem dropped_append_one :
    Dropped (steps ++ [s]) receiver ↔
      Dropped steps receiver ∨ s.operation = .dropReceiver receiver := by
  simp [Dropped, or_and_right, exists_or]

@[simp] theorem ended_append_one :
    Ended (steps ++ [s]) id ↔ Ended steps id ∨ s.ends id = true := by
  simp [Ended, or_and_right, exists_or]

/-- As long as a subscription lasts, what is published counts. -/
theorem publishedUntilEnd_append_lasting (h : ¬ Ended steps id) :
    publishedUntilEnd id (steps ++ [s]) =
      publishedUntilEnd id steps ++ if s.ends id then [] else s.published?.toList := by
  have hlasting : ∀ t ∈ steps, (!t.ends id) = true := by
    intro t ht
    cases hends : t.ends id
    · rfl
    · exact absurd ⟨t, ht, hends⟩ h
  rw [publishedUntilEnd, publishedUntilEnd, List.takeWhile_append_of_pos hlasting,
    List.takeWhile_eq_self_iff.mpr hlasting, List.filterMap_append]
  cases hends : s.ends id <;> cases hpub : s.published? <;> simp [hends, hpub]

/-- Once it has ended, nothing does. -/
theorem publishedUntilEnd_append_over (h : Ended steps id) :
    publishedUntilEnd id (steps ++ [s]) = publishedUntilEnd id steps := by
  obtain ⟨t, ht, hends⟩ := h
  have hcut : (steps.takeWhile fun s => !s.ends id).length ≠ steps.length := by
    intro hlength
    have hself := List.takeWhile_eq_self_iff.mp (List.takeWhile_prefix _ |>.eq_of_length hlength)
    simpa [hends] using hself t ht
  rw [publishedUntilEnd, publishedUntilEnd, List.takeWhile_append, if_neg hcut]

theorem publishedUntilEnd_append_silent (h : s.published? = none) :
    publishedUntilEnd id (steps ++ [s]) = publishedUntilEnd id steps := by
  by_cases hended : Ended steps id
  · exact publishedUntilEnd_append_over hended
  · simp [publishedUntilEnd_append_lasting hended, h]

end Append

/-- All that one operation can do to the hub, and what has to hold for it. -/
inductive Effect (h : Hub) : Operation → Answer → Hub → Prop where
  | subscribed {id : String} {filter : EventFilter} {source : String} :
      Effect h (.subscribe id filter source) (.subscribed h.receivers.length)
        ⟨(h.without id).subscriptions ++ [⟨id, filter, source, h.receivers.length⟩],
          h.receivers ++ [⟨[], true⟩]⟩
  | unsubscribed {id : String} :
      Effect h (.unsubscribe id) (.unsubscribed (h.hasSubscriber id)) (h.without id)
  | published {op : Operation} {answer : Answer} {e : Event}
      (asked : op = .publish e ∧ answer = .published (h.publish e).1 ∨
        op = .notify e ∧ answer = .done) :
      Effect h op answer (h.publish e).2
  | drained {receiver : Nat} {r : Receiver} (there : h.receivers[receiver]? = some r)
      (held : r.held = true) :
      Effect h (.drain receiver) (.drained r.waiting)
        { h with receivers := h.receivers.set receiver ⟨[], true⟩ }
  | dropped {receiver : Nat} (held : h.isHeld receiver = true) :
      Effect h (.dropReceiver receiver) .done (h.dropReceiver receiver)

theorem effect_of_perform {h : Hub} {op : Operation} {reply : Reply}
    (performed : h.perform op = some reply) : Effect h op reply.answer reply.hub := by
  cases op with
  | subscribe id filter source =>
    cases performed
    exact .subscribed
  | unsubscribe id =>
    cases performed
    exact .unsubscribed
  | publish e =>
    cases performed
    exact .published (.inl ⟨rfl, rfl⟩)
  | notify e =>
    cases performed
    have hnotify : (h.notify e).1 = (h.publish e).2 := by
      unfold notify
      split <;> simp [*]
    rw [hnotify]
    exact .published (.inr ⟨rfl, rfl⟩)
  | drain receiver =>
    simp only [perform, drain] at performed
    split at performed
    · rename_i r there
      split at performed
      · rename_i held
        cases performed
        exact .drained there held
      · cases performed
    · cases performed
  | dropReceiver receiver =>
    simp only [perform] at performed
    split at performed
    · rename_i held
      cases performed
      exact .dropped held
    · cases performed

theorem Effect.of_subscribe {h h' : Hub} {id : String} {filter : EventFilter} {source : String}
    {receiver : Nat} (effect : Effect h (.subscribe id filter source) (.subscribed receiver) h') :
    receiver = h.receivers.length ∧
      h' = ⟨(h.without id).subscriptions ++ [⟨id, filter, source, h.receivers.length⟩],
        h.receivers ++ [⟨[], true⟩]⟩ := by
  cases effect with
  | subscribed => exact ⟨rfl, rfl⟩
  | published asked => simp at asked

theorem Run.trans {start mid h : Hub} {past more : List Step} (first : Run start past mid)
    (next : Run mid more h) : Run start (past ++ more) h := by
  induction next with
  | start => simpa using first
  | step _ performed ih => simpa using ih.step performed

/-- The steps that publish events one after the other and ask for no answer. -/
def notices (es : List Event) : List Step := es.map fun e => ⟨.notify e, .done⟩

theorem run_notify (h : Hub) (e : Event) : Run h (notices [e]) (h.notify e).1 :=
  Run.start.step (show h.perform (.notify e) = some ⟨.done, (h.notify e).1, (h.notify e).2⟩ from rfl)

/-- A run can be cut at any of its steps. -/
theorem Run.cut {start h : Hub} {before after : List Step} {s : Step}
    (run : Run start (before ++ s :: after) h) :
    ∃ found left, Run start before found ∧ Effect found s.operation s.answer left ∧
      Run left after h := by
  generalize hsteps : before ++ s :: after = steps at run
  induction run generalizing after with
  | start => simp at hsteps
  | @step past h op reply run performed ih =>
    obtain rfl | ⟨init, last, rfl⟩ := after.eq_nil_or_concat'
    · obtain ⟨rfl, hlast⟩ := List.append_inj' hsteps rfl
      obtain rfl := List.singleton_inj.mp hlast
      exact ⟨h, reply.hub, run, effect_of_perform performed, .start⟩
    · rw [← List.cons_append, ← List.append_assoc] at hsteps
      obtain ⟨hpast, hlast⟩ := List.append_inj' hsteps rfl
      obtain ⟨found, left, hbefore, heffect, hafter⟩ := ih hpast
      exact ⟨found, left, hbefore, heffect, hlast ▸ hafter.step performed⟩

end ImportWeights.Events.Hub
