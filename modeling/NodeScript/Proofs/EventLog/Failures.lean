import NodeScript.Proofs.EventLog.Streams
import NodeScript.Proofs.Written

/-!
Steps that end in an error. Such a step leaves the subscriptions alone. Of the rest it changes what it
does before it can fail, and that stays done: an emission has drawn its id, an event that turns out not
to be writable is kept, and a client that does not get the history is registered.
-/
namespace NodeScript

/-- The details of an event are wrong, or the log cannot do what it is asked. -/
inductive StepError where
  | details (faults : List Fault)
  | log (error : LogError)
  deriving DecidableEq, Repr

namespace EventLog

/-- The error in which a step ends, if it does. -/
def error? (log : EventLog) : LogStep → Option StepError
  | .emit kind members =>
    match (log.emit kind members).1 with
    | .ok handout => handout.error.map .log
    | .error faults => some (.details faults)
  | .publish e => (log.publish e).1.error.map .log
  | .unsubscribe kind s =>
    match log.unsubscribe kind s with
    | .ok _ => none
    | .error error => some (.log error)
  | .addClient name takes => (log.addClient name takes).1.error.map .log
  | .subscribe .. | .removeClient _ | .clearHistory | .tick _ => none

section

variable {log : EventLog} {e : Event} {name : Text} {takes : Option Int} {error : LogError}

theorem exists_unwritable {events : List Event} {fault : WriteFault}
    (found : Record.fault? events = some fault) : ∃ e ∈ events, e.writable = false := by
  by_contra all
  push Not at all
  have written : Record.Written events := Record.written_list.mpr fun e member => by
    have may : (Record.fault? e).isNone = true := by simpa [Event.writable] using all e member
    exact Record.fault?_eq_none.mp (Option.isNone_iff_eq_none.mp may)
  rw [Record.fault?_eq_none.mpr written] at found
  cases found

/-- A client that is not told the history is registered, whether the history cannot be written or the
client does not take it. -/
theorem addClient_failed (failed : (log.addClient name takes).1.error = some error) :
    (log.addClient name takes).2 = log.register name { number := log.added + 1, takes } ∧
      (log.addClient name takes).1.deliveries = [] ∧ log.history ≠ [] ∧
      (Client.takesMore { number := log.added + 1, takes } = false ∨
        ∃ e ∈ log.history.rtake 50, e.writable = false) := by
  have shown : latest shownToNew log.history = log.history.rtake 50 := latest_eq_rtake (by decide) _
  have kept (some : log.history.rtake 50 ≠ []) : log.history ≠ [] := by
    rintro none
    simp [none] at some
  unfold addClient at failed ⊢
  rw [shown] at failed ⊢
  dsimp only at failed ⊢
  split at failed
  · cases failed
  · rename_i some
    rw [if_neg some]
    split at failed
    · rename_i fault found
      exact ⟨rfl, rfl, kept some, .inr (exists_unwritable found)⟩
    · split at failed
      · cases failed
      · rename_i deaf
        rw [if_neg deaf]
        exact ⟨rfl, rfl, kept some, .inl (by simpa using deaf)⟩

/-- A client whose addition fails is a client like any other: it gets every event after it that can be
written, until it is removed or fails to take one, and is there at the end if neither happened. -/
theorem run_leaked (clock : Clock) (limit : Int) (name : Text) (takes : Option Int)
    (before after : List LogStep)
    (once : ∀ other, LogStep.addClient name other ∉ before ++ after) :
    let new : EventLog := { clock, limit }
    let log := new.run before
    log.error? (.addClient name takes) ≠ none →
    let number := log.added + 1
    let steps := before ++ .addClient name takes :: after
    let sent := log.sentTo name takes after
    let got := takes.elim sent fun most => sent.take most.toNat
    new.stream number steps = got.map .event ∧
    (number ∈ (new.run steps).clients.map Client.number ↔
      (∀ step ∈ after, step.removes name = false) ∧ got = sent) := by
  intro new log failed number steps sent got
  obtain ⟨_, raised⟩ := Option.ne_none_iff_exists'.mp failed
  obtain ⟨_, raised, -⟩ := Option.map_eq_some_iff.mp raised
  obtain ⟨left, silent, -⟩ := addClient_failed raised
  have here : (log.after (.addClient name takes)).present number = [{ number, takes }] := by
    rw [EventLog.after, left]
    exact register_alone name (next_unused new rfl rfl).2
  have taken : Client.takesOf { number, takes } sent = got := by
    rw [takesOf_left]
    cases takes <;> simp [got]
  have nothing : (log.handout (.addClient name takes)).messages number = [] := by
    rw [handout, Handout.messages, silent, List.filterMap_nil]
  obtain ⟨stream, stays⟩ := stream_registered new rfl rfl rfl here once
  rw [present_iff, taken] at stays
  rw [nothing, taken] at stream
  exact ⟨stream, stays⟩

end

end EventLog

end NodeScript
