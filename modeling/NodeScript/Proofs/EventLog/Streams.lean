import NodeScript.Proofs.Entries
import NodeScript.Proofs.EventLog.Run

/-!
What a client gets. Its messages begin with the last events that are kept when it is added, and go on
with every event that is published and can be written, until it is removed or fails to take one. What
happens to it in a step depends on the event and on itself only, so no other client matters to it.
-/
namespace NodeScript

namespace Event

def writable (e : Event) : Bool := (Record.fault? e).isNone

end Event

def Message.numbers : Message → List (Option Int)
  | .history events => events.map Event.number?
  | .event e => [e.number?]

def Handout.messages (h : Handout) (number : Nat) : List Message :=
  h.deliveries.filterMap fun
    | .message client m => if client = number then some m else none
    | .call .. => none

namespace Client

def takesOf {α : Type} (c : Client) (items : List α) : List α :=
  match c.takes with
  | none => items
  | some most => items.take (most - c.taken).toNat

section

variable {α : Type} (c : Client)

theorem takesOf_nil : c.takesOf ([] : List α) = [] := by
  unfold takesOf
  split <;> simp

theorem takesOf_cons (item : α) (rest : List α) :
    c.takesOf (item :: rest) = if c.takesMore then item :: c.take.takesOf rest else [] := by
  cases most : c.takes with
  | none => simp [takesOf, takesMore, take, most]
  | some n =>
      by_cases more : (c.taken : Int) < n
      · have left : (n - c.taken).toNat = (n - (c.taken + 1 : Nat)).toNat + 1 := by omega
        simp [takesOf, takesMore, take, most, more, left]
      · have none : (n - c.taken).toNat = 0 := by omega
        simp [takesOf, takesMore, most, more, none]

end

end Client

namespace LogStep

def adds : LogStep → Nat
  | .addClient .. => 1
  | _ => 0

def named (added : Nat) (names : List (Text × Nat)) : LogStep → List (Text × Nat)
  | .addClient name _ => Entries.put names name (added + 1)
  | _ => names

def clock (now : Clock) : LogStep → Clock
  | .tick clock => clock
  | _ => now

def removes (name : Text) : LogStep → Bool
  | .removeClient other => other = name
  | _ => false

def concerns (name : Text) : LogStep → Bool
  | .addClient other _ => other = name
  | .removeClient other => other = name
  | _ => true

end LogStep

namespace EventLog

def present (log : EventLog) (number : Nat) : List Client := log.clients.filter (·.number = number)

/-- The messages of a run to a client. -/
def stream (number : Nat) (log : EventLog) : List LogStep → List Message
  | [] => []
  | step :: rest => (log.handout step).messages number ++ (log.after step).stream number rest

def published (log : EventLog) : List LogStep → List Event
  | [] => []
  | step :: rest => (log.published? step).toList ++ (log.after step).published rest

/-- The events that are sent to a client that a log adds, if it takes them all: those that can be
written, until it is removed. -/
def sentTo (name : Text) (takes : Option Int) (log : EventLog) (steps : List LogStep) : List Event :=
  ((log.after (.addClient name takes)).published
    (steps.takeWhile fun step => !step.removes name)).filter Event.writable

/-- The step removes the client of a number, by the name it has. -/
def takesAway (number : Nat) (log : EventLog) : LogStep → Bool
  | .removeClient name => log.names.lookup name = some number
  | _ => false

def standing (e : Event) (clients : List Client) : List Client :=
  if e.writable then (clients.filter Client.takesMore).map Client.take else clients

def told (e : Event) (clients : List Client) : List Message :=
  if e.writable then (clients.filter Client.takesMore).map fun _ => .event e else []

/-- What a step does to the time and to the names and numbers of the clients. -/
structure Counts (log later : EventLog) (step : LogStep) : Prop where
  clock : later.clock = step.clock log.clock
  added : later.added = log.added + step.adds
  names : later.names = step.named log.added log.names

/-- The number has been given to a client, and the name is the only one that has it. -/
structure Held (name : Text) (number : Nat) (log : EventLog) : Prop where
  given : number ≤ log.added
  named : ∀ other, log.names.lookup other = some number ↔ other = name

/-- The logs publish the same events in the same steps. -/
structure Alike (log other : EventLog) : Prop where
  clock : log.clock = other.clock
  limit : log.limit = other.limit
  history : log.history = other.history
  drawn : log.drawn = other.drawn

section

variable {log later other : EventLog} {number : Nat} {name : Text} {e : Event}

theorem messages_calls (number : Nat) (subscribers : List Subscriber) (e : Event)
    (more : List Delivery) (error : Option LogError) :
    (Handout.mk (subscribers.map (fun s => .call s e) ++ more) error).messages number =
      (Handout.mk more error).messages number := by
  induction subscribers with
  | nil => rfl
  | cons s rest ih => exact ih

theorem messages_event (clients : List Client) (e : Event) (error : Option LogError) :
    (Handout.mk (clients.map fun c => .message c.number (.event e)) error).messages number =
      (clients.filter (·.number = number)).map fun _ => .event e := by
  induction clients with
  | nil => rfl
  | cons c rest ih =>
      simp only [Handout.messages] at ih ⊢
      by_cases here : c.number = number <;> simp [here, ih]

theorem filter_receivers (clients : List Client) :
    (clients.filter Client.takesMore).filter (fun c => decide (c.number = number)) =
      (clients.filter fun c => decide (c.number = number)).filter Client.takesMore := by
  simp only [List.filter_filter, Bool.and_comm]

theorem publish_present (e : Event) (log : EventLog) (number : Nat) :
    (log.publish e).2.present number = standing e (log.present number) ∧
      (log.publish e).1.messages number = told e (log.present number) := by
  have kept : ((log.clients.filter Client.takesMore).map Client.take).filter
      (fun c => decide (c.number = number)) =
      ((log.clients.filter fun c => decide (c.number = number)).filter Client.takesMore).map
        Client.take := by
    rw [List.filter_map, ← filter_receivers]
    rfl
  have silent (error : Option LogError) :
      (Handout.mk (log.calls e) error).messages number = [] := by
    have calls := messages_calls number (log.subscribers e.kind) e [] error
    rwa [List.append_nil] at calls
  by_cases nobody : log.clients = []
  · simp [publish, nobody, present, standing, told, receivers, silent]
  · cases fault : Record.fault? e with
    | none =>
        simp only [publish, nobody, fault, if_false, present, standing, told, Event.writable,
          Option.isNone_none, if_true, receivers, kept, calls, messages_calls, messages_event,
          filter_receivers, and_self]
    | some found =>
        simp only [publish, nobody, fault, if_false, present, standing, told, Event.writable,
          Option.isNone_some, Bool.false_eq_true, silent, and_true]

theorem after_counts (step : LogStep) (log : EventLog) : Counts log (log.after step) step := by
  cases step with
  | emit kind members =>
      cases read : (EventDetails.read members).run with
      | ok details =>
          simp only [after, emit_ok read, publish]
          split <;> exact ⟨rfl, rfl, rfl⟩
      | error faults =>
          simp only [after, emit_error read]
          exact ⟨rfl, rfl, rfl⟩
  | publish e =>
      simp only [after, publish]
      split <;> exact ⟨rfl, rfl, rfl⟩
  | unsubscribe kind s =>
      rw [after_unsubscribe]
      exact ⟨rfl, rfl, rfl⟩
  | addClient name takes =>
      simp only [after, addClient]
      split
      · exact ⟨rfl, rfl, rfl⟩
      · split
        · exact ⟨rfl, rfl, rfl⟩
        · split <;> exact ⟨rfl, rfl, rfl⟩
  | removeClient name =>
      simp only [after, removeClient]
      split <;> exact ⟨rfl, rfl, rfl⟩
  | subscribe | clearHistory | tick => exact ⟨rfl, rfl, rfl⟩

theorem removeClient_present (name : Text) (log : EventLog) (number : Nat) :
    (log.removeClient name).present number =
      if log.names.lookup name = some number then [] else log.present number := by
  unfold removeClient
  cases held : log.names.lookup name with
  | none => rfl
  | some holder =>
      simp only [present, List.filter_filter, Option.some.injEq]
      by_cases same : holder = number
      · rw [if_pos same, same]
        exact List.filter_eq_nil_iff.mpr fun c _ => by simp
      · rw [if_neg same]
        apply List.filter_congr
        intro c _
        by_cases mine : c.number = number <;> simp [mine, Ne.symm same]

theorem register_present (name : Text) (c : Client) (log : EventLog) (apart : c.number ≠ number) :
    (log.register name c).present number = log.present number := by
  simp [register, present, apart]

theorem after_present (number : Nat) (step : LogStep) (log : EventLog)
    (apart : number ≤ log.added ∨ (log.after step).added < number) :
    (log.after step).present number =
        (if log.takesAway number step then []
          else (log.published? step).elim (log.present number) (standing · (log.present number))) ∧
      (log.handout step).messages number =
        (log.published? step).elim [] (told · (log.present number)) := by
  cases step with
  | emit kind members =>
      cases read : (EventDetails.read members).run with
      | ok details =>
          simp only [after, handout, emit_ok read, published?_ok read]
          exact publish_present (log.next { kind, details }) log.draw number
      | error faults =>
          simp only [after, handout, emit_error read, published?_error read]
          exact ⟨rfl, rfl⟩
  | publish e => exact publish_present e log number
  | unsubscribe kind s =>
      rw [after_unsubscribe]
      exact ⟨rfl, rfl⟩
  | addClient name takes =>
      have other : log.added + 1 ≠ number := by
        have added := (after_counts (.addClient name takes) log).added
        simp only [LogStep.adds] at added
        omega
      simp only [after, handout, addClient, published?, emitted?, takesAway]
      split
      · exact ⟨register_present _ _ _ other, rfl⟩
      · split
        · exact ⟨register_present _ _ _ other, rfl⟩
        · split
          · refine ⟨register_present _ _ _ other, ?_⟩
            simp [Handout.messages, other]
          · exact ⟨register_present _ _ _ other, rfl⟩
  | removeClient name =>
      refine ⟨?_, rfl⟩
      rw [after, removeClient_present]
      simp [takesAway, published?, emitted?]
  | subscribe | clearHistory | tick => exact ⟨rfl, rfl⟩

theorem run_added (steps : List LogStep) (log : EventLog) : log.added ≤ (log.run steps).added := by
  induction steps generalizing log with
  | nil => exact le_rfl
  | cons step rest ih =>
      have first := (after_counts step log).added
      have later : (log.after step).added ≤ (log.run (step :: rest)).added := ih (log.after step)
      omega

theorem stream_append (number : Nat) (before after : List LogStep) (log : EventLog) :
    log.stream number (before ++ after) =
      log.stream number before ++ (log.run before).stream number after := by
  induction before generalizing log with
  | nil => rfl
  | cons step rest ih => simp only [List.cons_append, stream, ih, List.append_assoc]; rfl

theorem run_absent (steps : List LogStep) (log : EventLog) (absent : log.present number = [])
    (apart : number ≤ log.added ∨ (log.run steps).added < number) :
    log.stream number steps = [] ∧ (log.run steps).present number = [] := by
  induction steps generalizing log with
  | nil => exact ⟨rfl, absent⟩
  | cons step rest ih =>
      have first := (after_counts step log).added
      have last : (log.after step).added ≤ (log.run (step :: rest)).added :=
        run_added rest (log.after step)
      obtain ⟨gone, silent⟩ := after_present number step log (by omega)
      rw [absent] at gone silent
      have left : (log.after step).present number = [] := by
        rw [gone]
        cases log.published? step <;> simp [standing]
      obtain ⟨nothing, away⟩ := ih (log.after step) left (by
        rcases apart with given | free
        · exact .inl (by omega)
        · exact .inr free)
      refine ⟨?_, away⟩
      rw [stream, silent, nothing]
      cases log.published? step <;> simp [told]

theorem Held.after {step : LogStep} (held : Held name number log)
    (other : ∀ takes, step ≠ .addClient name takes) : Held name number (log.after step) := by
  have counts := after_counts step log
  refine ⟨by have := held.given; have := counts.added; omega, fun asked => ?_⟩
  rw [counts.names]
  cases step with
  | addClient newcomer takes =>
      have apart : newcomer ≠ name := fun same => other takes (congrArg (LogStep.addClient · takes) same)
      have unused : log.added + 1 ≠ number := by have := held.given; omega
      rw [LogStep.named, Entries.lookup_put, ← held.named asked]
      split
      · rename_i same
        have none := held.named newcomer
        simp only [same, Option.some.injEq, unused, false_iff, none]
        exact apart
      · rfl
  | emit | publish | subscribe | unsubscribe | removeClient | clearHistory | tick => exact held.named asked

theorem Held.takesAway (held : Held name number log) (step : LogStep) :
    log.takesAway number step = step.removes name := by
  cases step with
  | removeClient asked => exact decide_eq_decide.mpr (held.named asked)
  | emit | publish | subscribe | unsubscribe | addClient | clearHistory | tick => rfl

/-- What can happen in a step to a client that is there: it is removed, nothing is sent, or an event
is sent, which it takes or is dropped for. -/
theorem Held.cases (held : Held name number log) {c : Client} (here : log.present number = [c])
    (step : LogStep) :
    (step.removes name = true ∧ (log.handout step).messages number = [] ∧
      (log.after step).present number = []) ∨
    (step.removes name = false ∧ (log.published? step).toList.filter Event.writable = [] ∧
      (log.handout step).messages number = [] ∧ (log.after step).present number = [c]) ∨
    ∃ e, step.removes name = false ∧ (log.published? step).toList.filter Event.writable = [e] ∧
      (log.handout step).messages number = (if c.takesMore then [.event e] else []) ∧
      (log.after step).present number = (if c.takesMore then [c.take] else []) := by
  obtain ⟨left, got⟩ := after_present number step log (.inl held.given)
  rw [held.takesAway, here] at left
  rw [here] at got
  cases removed : step.removes name with
  | true =>
      have idle : log.published? step = none := by
        cases step <;> first | rfl | cases removed
      rw [removed, if_pos rfl] at left
      rw [idle] at got
      exact .inl ⟨rfl, got, left⟩
  | false =>
      rw [removed, if_neg Bool.false_ne_true] at left
      cases made : log.published? step with
      | none =>
          rw [made] at left got
          exact .inr (.inl ⟨rfl, rfl, got, left⟩)
      | some e =>
          rw [made, Option.elim_some] at left got
          cases written : e.writable with
          | false =>
              rw [standing, written, if_neg Bool.false_ne_true] at left
              rw [told, written, if_neg Bool.false_ne_true] at got
              exact .inr (.inl ⟨rfl, by simp [written], got, left⟩)
          | true =>
              rw [standing, written, if_pos rfl] at left
              rw [told, written, if_pos rfl] at got
              refine .inr (.inr ⟨e, rfl, by simp [written], ?_, ?_⟩)
              · rw [got]
                cases more : c.takesMore <;> simp [more]
              · rw [left]
                cases more : c.takesMore <;> simp [more]

/-- What a client gets and whether it stays, told by the events until it is removed. -/
theorem run_present (steps : List LogStep) (log : EventLog) (c : Client)
    (here : log.present number = [c]) (held : Held name number log)
    (once : ∀ takes, LogStep.addClient name takes ∉ steps) :
    let sent := (log.published (steps.takeWhile fun step => !step.removes name)).filter Event.writable
    log.stream number steps = (c.takesOf sent).map .event ∧
      ((log.run steps).present number ≠ [] ↔
        (∀ step ∈ steps, step.removes name = false) ∧ c.takesOf sent = sent) := by
  induction steps generalizing log c with
  | nil => simp [stream, run, published, here, Client.takesOf_nil]
  | cons step rest ih =>
      have others : ∀ takes, LogStep.addClient name takes ∉ rest :=
        fun takes member => once takes (List.mem_cons_of_mem _ member)
      have stays : Held name number (log.after step) :=
        held.after fun takes same => once takes (same ▸ List.mem_cons_self)
      have away (gone : (log.after step).present number = []) :=
        run_absent rest (log.after step) gone (.inl stays.given)
      have last : log.run (step :: rest) = (log.after step).run rest := rfl
      intro sent
      have sends (kept : step.removes name = false) :
          sent = (log.published? step).toList.filter Event.writable ++
            ((log.after step).published
              (rest.takeWhile fun step => !step.removes name)).filter Event.writable := by
        rw [← List.filter_append]
        simp only [sent]
        rw [List.takeWhile_cons_of_pos (by simp [kept])]
        rfl
      -- The step removes the client, sends it nothing, or sends it one event, after which a client that takes
      -- no more is gone.
      rcases held.cases here step with ⟨removed, got, left⟩ | ⟨kept, silent, got, left⟩ |
        ⟨e, kept, made, got, left⟩
      · obtain ⟨nothing, gone⟩ := away left
        have none : sent = [] := by
          simp only [sent]
          rw [List.takeWhile_cons_of_neg (by simp [removed])]
          rfl
        simp [stream, got, nothing, last, gone, none, Client.takesOf_nil, removed]
      · rw [sends kept, silent]
        simpa [stream, got, last, kept] using ih (log.after step) c left stays others
      · rw [sends kept, made]
        cases more : c.takesMore with
        | true =>
            rw [more, if_pos rfl] at got left
            simpa [stream, got, last, kept, Client.takesOf_cons, more] using
              ih (log.after step) c.take left stays others
        | false =>
            rw [more, if_neg Bool.false_ne_true] at got left
            obtain ⟨nothing, gone⟩ := away left
            simp [stream, got, last, kept, Client.takesOf_cons, more, nothing, gone]

theorem run_named (steps : List LogStep) (log : EventLog)
    (given : ∀ name number, log.names.lookup name = some number → number ≤ log.added) :
    ∀ name number, (log.run steps).names.lookup name = some number →
      number ≤ (log.run steps).added := by
  induction steps generalizing log with
  | nil => exact given
  | cons step rest ih =>
      refine ih (log.after step) fun name number named => ?_
      have counts := after_counts step log
      rw [counts.names] at named
      rw [counts.added]
      cases step with
      | addClient newcomer takes =>
          rw [LogStep.named, Entries.lookup_put] at named
          split at named
          · cases named
            exact le_rfl
          · exact (given name number named).trans (Nat.le_add_right _ _)
      | emit | publish | subscribe | unsubscribe | removeClient | clearHistory | tick =>
          exact (given name number named).trans (Nat.le_add_right _ _)

theorem register_alone (name : Text) {c : Client} (unused : log.present c.number = []) :
    (log.register name c).present c.number = [c] := by
  simp only [present, register, List.filter_append] at unused ⊢
  rw [unused]
  simp

theorem Alike.published? (alike : Alike log other) (step : LogStep) :
    log.published? step = other.published? step := by
  cases step with
  | emit kind members =>
      simp only [EventLog.published?, emitted?, next, alike.clock, alike.drawn]
  | publish | subscribe | unsubscribe | addClient | removeClient | clearHistory | tick => rfl

theorem Alike.after (alike : Alike log other) (step : LogStep) :
    Alike (log.after step) (other.after step) := by
  have mine := after_moves step log
  have its := after_moves step other
  refine ⟨?_, ?_, ?_, ?_⟩
  · rw [(after_counts step log).clock, (after_counts step other).clock, alike.clock]
  · rw [mine.limit, its.limit, alike.limit]
  · rw [mine.history, its.history, alike.limit, alike.history, alike.published? step]
  · rw [mine.drawn, its.drawn, alike.drawn]

theorem Alike.symm (alike : Alike log other) : Alike other log :=
  ⟨alike.clock.symm, alike.limit.symm, alike.history.symm, alike.drawn.symm⟩

theorem Alike.trans (first : Alike log later) (second : Alike later other) : Alike log other :=
  ⟨first.clock.trans second.clock, first.limit.trans second.limit,
    first.history.trans second.history, first.drawn.trans second.drawn⟩

theorem after_unconcerned {step : LogStep} (unconcerned : step.concerns name = false)
    (log : EventLog) : log.published? step = none ∧ Alike (log.after step) log := by
  have moves := after_moves step log
  have clock := (after_counts step log).clock
  cases step with
  | addClient | removeClient => exact ⟨rfl, clock, moves.limit, moves.history, moves.drawn⟩
  | emit | publish | subscribe | unsubscribe | clearHistory | tick => cases unconcerned

theorem run_concerned (name : Text) (steps : List LogStep) (log other : EventLog)
    (alike : Alike log other) :
    log.published steps = other.published (steps.filter (LogStep.concerns name)) ∧
      Alike (log.run steps) (other.run (steps.filter (LogStep.concerns name))) := by
  induction steps generalizing log other with
  | nil => exact ⟨rfl, alike⟩
  | cons step rest ih =>
      cases concerned : step.concerns name with
      | true =>
          obtain ⟨same, last⟩ := ih _ _ (alike.after step)
          rw [List.filter_cons_of_pos concerned, published, published, alike.published? step, same]
          exact ⟨rfl, last⟩
      | false =>
          -- A step that is about another client is left out of the other run, whose log is none the worse.
          obtain ⟨idle, still⟩ := after_unconcerned concerned log
          obtain ⟨same, last⟩ := ih _ _ (still.trans alike)
          rw [List.filter_cons_of_neg (by simp [concerned]), published, idle, same]
          exact ⟨rfl, last⟩

theorem takesOf_left (number taken : Nat) (takes : Option Int) {α : Type} (items : List α) :
    Client.takesOf { number, takes, taken } items =
      takes.elim items fun most => items.take (most - taken).toNat := by
  cases takes <;> rfl

theorem next_unused (new : EventLog) (nobody : new.clients = []) {before : List LogStep}
    (reached : new.run before = log) :
    new.stream (log.added + 1) before = [] ∧ log.present (log.added + 1) = [] := by
  have absent : new.present (log.added + 1) = [] := by rw [present, nobody, List.filter_nil]
  have unused := run_absent before new absent (.inr (by rw [reached]; exact Nat.lt_succ_self _))
  rwa [reached] at unused

theorem held_added (new : EventLog) (nameless : new.names = []) {before : List LogStep}
    (reached : new.run before = log) (name : Text) (takes : Option Int) :
    Held name (log.added + 1) (log.after (.addClient name takes)) := by
  have counts := after_counts (.addClient name takes) log
  refine ⟨counts.added.ge, fun asked => ?_⟩
  rw [counts.names, LogStep.named, Entries.lookup_put]
  have below := run_named before new (fun _ _ named => by simp [nameless] at named) asked
    (log.added + 1)
  rw [reached] at below
  by_cases same : asked = name
  · simp [same]
  · rw [if_neg same]
    exact ⟨fun named => absurd (below named) (Nat.not_succ_le_self _), fun mine => absurd mine same⟩

/-- What a client that is added to a log gets and whether it stays, told by what it is then. -/
theorem stream_registered (new : EventLog) (nobody : new.clients = []) (nameless : new.names = [])
    {before after : List LogStep} (reached : new.run before = log) {takes : Option Int} {c : Client}
    (here : (log.after (.addClient name takes)).present (log.added + 1) = [c])
    (once : ∀ other, LogStep.addClient name other ∉ before ++ after) :
    let steps := before ++ .addClient name takes :: after
    let got := c.takesOf (log.sentTo name takes after)
    new.stream (log.added + 1) steps =
        (log.handout (.addClient name takes)).messages (log.added + 1) ++ got.map .event ∧
      ((new.run steps).present (log.added + 1) ≠ [] ↔
        (∀ step ∈ after, step.removes name = false) ∧ got = log.sentTo name takes after) := by
  intro steps got
  obtain ⟨taken, stays⟩ := run_present after (log.after (.addClient name takes)) c here
    (held_added new nameless reached name takes)
    fun other member => once other (List.mem_append_right before member)
  refine ⟨?_, ?_⟩
  · rw [stream_append, (next_unused new nobody reached).1, reached, List.nil_append, stream, taken]
    rfl
  · have last : new.run steps = (log.after (.addClient name takes)).run after := by
      rw [← reached]
      exact List.foldl_append ..
    rw [last]
    exact stays

theorem present_iff (log : EventLog) (number : Nat) :
    log.present number ≠ [] ↔ number ∈ log.clients.map Client.number := by
  simp [present, List.filter_eq_nil_iff]

theorem Alike.error (alike : Alike log other) (name : Text) (takes : Option Int) :
    (log.addClient name takes).1.error = (other.addClient name takes).1.error := by
  have more : Client.takesMore { number := log.added + 1, takes } =
    Client.takesMore { number := other.added + 1, takes } := rfl
  simp only [addClient, alike.history, more]
  split
  · rfl
  · split
    · rfl
    · split <;> rfl

theorem filter_until (name : Text) (steps : List LogStep) :
    (steps.takeWhile fun step => !step.removes name).filter (LogStep.concerns name) =
      (steps.filter (LogStep.concerns name)).takeWhile fun step => !step.removes name := by
  have stops : (fun step : LogStep => !step.concerns name || !step.removes name) =
      fun step => !step.removes name := by
    funext step
    cases step <;> simp [LogStep.concerns, LogStep.removes]
  rw [List.takeWhile_filter, stops]

theorem run_alike (name : Text) {steps its : List LogStep} (alike : Alike log other)
    (same : steps.filter (LogStep.concerns name) = its.filter (LogStep.concerns name)) :
    log.published steps = other.published its ∧ Alike (log.run steps) (other.run its) := by
  obtain ⟨mine, left⟩ := run_concerned name steps log other alike
  obtain ⟨yours, right⟩ := run_concerned name its other other ⟨rfl, rfl, rfl, rfl⟩
  rw [same] at mine left
  exact ⟨mine.trans yours.symm, left.trans right.symm⟩

theorem Alike.sentTo (alike : Alike log other) (name : Text) (takes : Option Int)
    {steps its : List LogStep}
    (same : steps.filter (LogStep.concerns name) = its.filter (LogStep.concerns name)) :
    log.sentTo name takes steps = other.sentTo name takes its := by
  have stops : (steps.takeWhile fun step => !step.removes name).filter (LogStep.concerns name) =
      (its.takeWhile fun step => !step.removes name).filter (LogStep.concerns name) := by
    rw [filter_until, same, filter_until]
  rw [EventLog.sentTo, (run_alike name (alike.after (.addClient name takes)) stops).1,
    EventLog.sentTo]

end

/-- Half a character that stands alone in a name cannot be written. -/
def unwritten : Members := [("data", .obj [("node", .obj [(⟨[.half 0]⟩, .int 1)])])]

end EventLog

end NodeScript
