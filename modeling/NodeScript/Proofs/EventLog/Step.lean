import Mathlib.Data.List.DropRight
import NodeScript.EventLog
import NodeScript.Proofs.Decimal.Digits

namespace NodeScript

/-- What can be done with a log. An emission is given the members of the details of its event. -/
inductive LogStep where
  | emit (kind : EventKind) (members : Members)
  | publish (event : Event)
  | subscribe (kind : EventKind) (s : Subscriber)
  | unsubscribe (kind : EventKind) (s : Subscriber)
  | addClient (name : Text) (takes : Option Int)
  | removeClient (name : Text)
  | clearHistory
  | tick (clock : Clock)

/-- The calls in what is handed out, without the messages. -/
def Handout.calls (h : Handout) : List (Subscriber × Event) :=
  h.deliveries.filterMap fun
    | .call s e => some (s, e)
    | .message .. => none

namespace LogStep

def gathered (since : List Event) (published : Option Event) : LogStep → List Event
  | .clearHistory => []
  | _ => since ++ published.toList

def kept (limit : Int) (history : List Event) (published : Option Event) : LogStep → List Event
  | .clearHistory => []
  | _ => published.elim history (EventLog.remember limit history)

def draws : LogStep → Nat
  | .emit .. => 1
  | _ => 0

/-- The registrations of a kind after the step: a new one goes to the end, and one that is taken
back is the first of its subscriber. -/
def registered (kind : EventKind) (before : List Subscriber) : LogStep → List Subscriber
  | .subscribe k s => if k = kind then before ++ [s] else before
  | .unsubscribe k s => if k = kind then before.erase s else before
  | _ => before

end LogStep

namespace EventLog

def after (log : EventLog) : LogStep → EventLog
  | .emit kind members => (log.emit kind members).2
  | .publish e => (log.publish e).2
  | .subscribe kind s => log.subscribe kind s
  | .unsubscribe kind s =>
    match log.unsubscribe kind s with
    | .ok left => left
    | .error _ => log
  | .addClient name takes => (log.addClient name takes).2
  | .removeClient name => log.removeClient name
  | .clearHistory => log.clearHistory
  | .tick clock => log.tick clock

def handout (log : EventLog) : LogStep → Handout
  | .emit kind members =>
    match (log.emit kind members).1 with
    | .ok handout => handout
    | .error _ => {}
  | .publish e => (log.publish e).1
  | .addClient name takes => (log.addClient name takes).1
  | _ => {}

/-- The event that a step makes under a number of its own and publishes. -/
def emitted? (log : EventLog) : LogStep → Option Event
  | .emit kind members =>
    match (EventDetails.read members).run with
    | .ok details => some (log.next { kind, details })
    | .error _ => none
  | _ => none

def published? (log : EventLog) : LogStep → Option Event
  | .publish e => some e
  | step => log.emitted? step

/-- All but the clients is as before. -/
structure Quiet (log later : EventLog) : Prop where
  limit : later.limit = log.limit
  history : later.history = log.history
  drawn : later.drawn = log.drawn
  registrations : later.registrations = log.registrations

section

variable {log later : EventLog} {e : Event}

theorem Quiet.subscribers (quiet : Quiet log later) (kind : EventKind) :
    later.subscribers kind = log.subscribers kind := by
  rw [EventLog.subscribers, quiet.registrations, ← EventLog.subscribers]

theorem addClient_quiet (name : Text) (takes : Option Int) (log : EventLog) :
    Quiet log (log.addClient name takes).2 := by
  unfold addClient
  dsimp only
  split
  · exact ⟨rfl, rfl, rfl, rfl⟩
  · split
    · exact ⟨rfl, rfl, rfl, rfl⟩
    · split <;> exact ⟨rfl, rfl, rfl, rfl⟩

theorem addClient_calls (name : Text) (takes : Option Int) (log : EventLog) :
    (log.addClient name takes).1.calls = [] := by
  unfold addClient
  dsimp only
  split
  · rfl
  · split
    · rfl
    · split <;> rfl

theorem removeClient_quiet (name : Text) (log : EventLog) : Quiet log (log.removeClient name) := by
  unfold removeClient
  split <;> exact ⟨rfl, rfl, rfl, rfl⟩

theorem publish_quiet (e : Event) (log : EventLog) :
    Quiet { log with history := remember log.limit log.history e } (log.publish e).2 := by
  unfold publish
  dsimp only
  split <;> exact ⟨rfl, rfl, rfl, rfl⟩

theorem calls_append (subscribers : List Subscriber) (e : Event) (messages : List Delivery)
    (error : Option LogError) (silent : ∀ d ∈ messages, ∃ client m, d = .message client m) :
    (Handout.mk (subscribers.map (fun s => .call s e) ++ messages) error).calls =
      subscribers.map fun s => (s, e) := by
  induction subscribers with
  | nil =>
      apply List.filterMap_eq_nil_iff.mpr
      intro d here
      obtain ⟨client, m, rfl⟩ := silent d here
      rfl
  | cons s rest ih => exact congrArg ((s, e) :: ·) ih

theorem publish_calls (e : Event) (log : EventLog) :
    (log.publish e).1.calls = (log.subscribers e.kind).map fun s => (s, e) := by
  unfold publish
  dsimp only
  split
  · rename_i fault _
    have called := calls_append (log.subscribers e.kind) e [] (some (.notWritten fault)) (by simp)
    rwa [List.append_nil] at called
  · apply calls_append
    intro d here
    obtain ⟨client, -, rfl⟩ := List.mem_map.mp here
    exact ⟨_, _, rfl⟩

/-- The last events and a new one behind them are the last ones again, but for the first one if
they are more than the limit now. -/
theorem remember_rtake (limit : Nat) (since : List Event) (e : Event) :
    remember limit (since.rtake limit) e = (since ++ [e]).rtake limit := by
  have longer : since.rtake limit ++ [e] = (since ++ [e]).drop (since.length - limit) := by
    rw [List.rtake, List.drop_append_of_le_length (Nat.sub_le _ _)]
  have length : (since.rtake limit ++ [e]).length = since.length + 1 - (since.length - limit) := by
    rw [longer, List.length_drop, List.length_append, List.length_singleton]
  simp only [remember, List.rtake, List.length_append, List.length_singleton] at longer length ⊢
  split
  · have first : since.length - limit + 1 = since.length + 1 - limit := by omega
    rw [longer, List.drop_drop, first]
  · have none : since.length - limit = since.length + 1 - limit := by omega
    rw [longer, none]

theorem emit_ok {kind : EventKind} {members : Members} {details : EventDetails}
    (read : (EventDetails.read members).run = .ok details) :
    log.emit kind members =
      (.ok (log.draw.publish (log.next { kind, details })).1,
        (log.draw.publish (log.next { kind, details })).2) := by
  rw [emit, read]
  rfl

theorem emit_error {kind : EventKind} {members : Members} {faults : List Fault}
    (read : (EventDetails.read members).run = .error faults) :
    log.emit kind members = (.error faults, log.draw) := by
  rw [emit, read]

theorem published?_ok {kind : EventKind} {members : Members} {details : EventDetails}
    (read : (EventDetails.read members).run = .ok details) :
    log.published? (.emit kind members) = some (log.next { kind, details }) := by
  simp only [published?, emitted?, read]

theorem published?_error {kind : EventKind} {members : Members} {faults : List Fault}
    (read : (EventDetails.read members).run = .error faults) :
    log.published? (.emit kind members) = none := by
  simp only [published?, emitted?, read]

theorem subscribers_erase (kind other : EventKind) (s : Subscriber)
    (registrations : List (EventKind × Subscriber)) :
    (((registrations.erase (kind, s)).filter fun r => r.1 = other).map (·.2)) =
      if kind = other then ((registrations.filter fun r => r.1 = other).map (·.2)).erase s
      else (registrations.filter fun r => r.1 = other).map (·.2) := by
  induction registrations with
  | nil => simp
  | cons r rest ih =>
      obtain ⟨k, t⟩ := r
      rw [List.erase_cons]
      by_cases here : k = kind ∧ t = s
      · obtain ⟨rfl, rfl⟩ := here
        by_cases same : k = other <;> simp [same]
      · have kept : ((k, t) == (kind, s)) = false := by simpa using here
        rw [kept, if_neg Bool.false_ne_true]
        by_cases mine : k = other
        · subst mine
          by_cases asked : kind = k
          · have apart : (t == s) = false := by simpa [asked] using here
            simp only [asked, if_true] at ih
            simp [ih, asked, apart]
          · simp only [asked, if_false] at ih
            simp [ih, asked]
        · simpa [mine] using ih

theorem after_unsubscribe (kind : EventKind) (s : Subscriber) (log : EventLog) :
    log.after (.unsubscribe kind s) =
      { log with registrations := log.registrations.erase (kind, s) } := by
  unfold after unsubscribe
  by_cases there : (kind, s) ∈ log.registrations
  · simp only [there, if_true]
  · rw [List.erase_of_not_mem there]
    simp only [there, if_false]
    split <;> rename_i taken
    · split at taken <;> cases taken
      rfl
    · rfl

/-- What a step can do to a log. -/
structure Moves (log later : EventLog) (step : LogStep) : Prop where
  limit : later.limit = log.limit
  history : later.history = step.kept log.limit log.history (log.published? step)
  drawn : later.drawn = log.drawn + step.draws
  subscribers : ∀ kind, later.subscribers kind = step.registered kind (log.subscribers kind)

theorem after_moves (step : LogStep) (log : EventLog) : Moves log (log.after step) step := by
  cases step with
  | emit kind members =>
      cases read : (EventDetails.read members).run with
      | ok details =>
          have quiet := publish_quiet (log.next { kind, details }) log.draw
          simp only [after, emit_ok read]
          refine ⟨quiet.limit, ?_, quiet.drawn, quiet.subscribers⟩
          rw [quiet.history, published?_ok read]
          rfl
      | error faults =>
          simp only [after, emit_error read]
          refine ⟨rfl, ?_, rfl, fun _ => rfl⟩
          rw [published?_error read]
          rfl
  | publish e =>
      have quiet := publish_quiet e log
      exact ⟨quiet.limit, quiet.history, quiet.drawn, quiet.subscribers⟩
  | subscribe kind s =>
      refine ⟨rfl, rfl, rfl, fun other => ?_⟩
      by_cases same : kind = other <;>
        simp [after, subscribe, subscribers, LogStep.registered, same]
  | unsubscribe kind s =>
      rw [after_unsubscribe]
      refine ⟨rfl, rfl, rfl, fun other => ?_⟩
      exact subscribers_erase kind other s log.registrations
  | addClient name takes =>
      have quiet := addClient_quiet name takes log
      exact ⟨quiet.limit, quiet.history, quiet.drawn, quiet.subscribers⟩
  | removeClient name =>
      have quiet := removeClient_quiet name log
      exact ⟨quiet.limit, quiet.history, quiet.drawn, quiet.subscribers⟩
  | clearHistory | tick => exact ⟨rfl, rfl, rfl, fun _ => rfl⟩

theorem handout_calls (step : LogStep) (log : EventLog) :
    (log.handout step).calls = (log.published? step).elim [] fun e =>
      (log.subscribers e.kind).map fun s => (s, e) := by
  cases step with
  | emit kind members =>
      cases read : (EventDetails.read members).run with
      | ok details =>
          simp only [handout, emit_ok read, published?_ok read]
          exact publish_calls (log.next { kind, details }) log.draw
      | error faults =>
          simp only [handout, emit_error read, published?_error read]
          rfl
  | publish e => exact publish_calls e log
  | addClient name takes => exact addClient_calls name takes log
  | subscribe | unsubscribe | removeClient | clearHistory | tick => rfl

end

end EventLog

end NodeScript
