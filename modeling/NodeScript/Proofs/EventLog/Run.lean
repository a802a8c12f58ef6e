import NodeScript.Proofs.EventLog.Step

/-!
Runs of an event log. What a log shows after a run is told by the run alone: its history by what was
published since it was last cleared, its calls by who subscribed and who went, and its numbers by
their order. Nothing depends on which calls and which messages fail.
-/
namespace NodeScript

/-- The event is of the script and of the kind that are asked for. -/
def Event.fits (script : Option Text) (kind : Option EventKind) (e : Event) : Bool :=
  script.all (fun id => e.details.script = some id) && kind.all (fun k => e.kind = k)

namespace EventLog

def run (log : EventLog) (steps : List LogStep) : EventLog := steps.foldl after log

/-- The events published since the history was last cleared, given those of before the run. -/
def sinceCleared (log : EventLog) (since : List Event) : List LogStep → List Event
  | [] => since
  | step :: rest => (log.after step).sinceCleared (step.gathered since (log.published? step)) rest

/-- The events of a run that were made under a number of their own. -/
def emitted (log : EventLog) : List LogStep → List Event
  | [] => []
  | step :: rest => (log.emitted? step).toList ++ (log.after step).emitted rest

/-- The registrations of a kind that are in force after a run, told by what was asked for. -/
def inForce (kind : EventKind) (steps : List LogStep) : List Subscriber :=
  steps.foldl (LogStep.registered kind) []

section

variable {log : EventLog} {limit : Nat}

theorem kept_rtake (step : LogStep) (since : List Event) (published : Option Event) :
    step.kept limit (since.rtake limit) published = (step.gathered since published).rtake limit := by
  cases step with
  | clearHistory => exact (List.rtake_nil limit).symm
  | emit | publish | subscribe | unsubscribe | addClient | removeClient | tick =>
      cases published with
      | none => simp [LogStep.kept, LogStep.gathered]
      | some e => exact remember_rtake limit since e

theorem run_history (bounded : log.limit = limit) (since : List Event)
    (last : log.history = since.rtake limit) (steps : List LogStep) :
    (log.run steps).history = (log.sinceCleared since steps).rtake limit := by
  -- Dropping the first event after every step comes to the same as keeping the last ones in the end.
  induction steps generalizing log since with
  | nil => exact last
  | cons step rest ih =>
      have moves := after_moves step log
      apply ih (moves.limit.trans bounded)
      rw [moves.history, bounded, last, kept_rtake]

theorem run_subscribers (kind : EventKind) (steps : List LogStep) (log : EventLog) :
    (log.run steps).subscribers kind =
      steps.foldl (LogStep.registered kind) (log.subscribers kind) := by
  induction steps generalizing log with
  | nil => rfl
  | cons step rest ih =>
      rw [List.foldl_cons, ← (after_moves step log).subscribers kind]
      exact ih (log.after step)

theorem latest_eq_rtake {α : Type} {n : Int} (positive : 1 ≤ n) (items : List α) :
    latest n items = items.rtake n.toNat := by
  rw [latest, if_pos (by omega), List.rtake]

theorem events_eq {script : Option Text} (named : script ≠ some "") (kind : Option EventKind)
    {shown : Int} (positive : 1 ≤ shown) (log : EventLog) :
    log.events script kind shown =
      (log.history.filter (Event.fits script kind)).rtake shown.toNat := by
  have fits : Event.fits script kind = fun e =>
      (script.all fun (id : Text) => id = "" || e.details.script = some id) && kind.all (· = e.kind) := by
    funext e
    cases script with
    | none => cases kind <;> simp [Event.fits, eq_comm]
    | some id =>
        have apart : id ≠ "" := fun empty => named (congrArg some empty)
        cases kind <;> simp [Event.fits, apart, eq_comm]
  rw [events, ← fits, latest_eq_rtake positive]

theorem chars?_char (cs : List Char) : (Text.mk (cs.map .char)).chars? = some cs := by
  induction cs with
  | nil => rfl
  | cons c rest ih =>
      simp only [Text.chars?] at ih
      simp [Text.chars?, List.mapM_cons, Letter.char?, ih]

theorem splitSign_digits (n : Nat) : Text.splitSign (Nat.toDigits 10 n) = (false, Nat.toDigits 10 n) := by
  have digits := Decimal.isDigit_toDigits (n := n)
  cases text : Nat.toDigits 10 n with
  | nil => rfl
  | cons c rest =>
      have digit : Decimal.isDigit c = true := digits c (by rw [text]; exact List.mem_cons_self)
      unfold Text.splitSign
      split
      · simp_all [Decimal.isDigit]
      · simp_all [Decimal.isDigit]
      · rfl

theorem next_number (a : Announcement) (log : EventLog) :
    (log.next a).number? = some ((log.drawn + 1 : Nat) : Int) := by
  have id : (log.next a).id.letters = ("evt_" ++ log.clock.stamp : Text).letters ++
      Letter.char '_' :: (Nat.toDigits 10 (log.drawn + 1)).map Letter.char := by
    rw [← Decimal.letters_natText]
    exact List.append_assoc _ [Letter.char '_'] _
  have used : Nat.toDigits 10 (log.drawn + 1) ≠ [] :=
    List.ne_nil_of_length_pos Nat.length_toDigits_pos
  have all : (∀ c ∈ Nat.toDigits 10 (log.drawn + 1), Decimal.isDigit c = true) ↔ True :=
    iff_true_intro Decimal.isDigit_toDigits
  unfold Event.number?
  rw [id, Decimal.digits_behind_lowLine, chars?_char]
  simp [splitSign_digits, all, used, guard, Decimal.digitsValue_toDigits]

theorem emitted?_number {step : LogStep} {e : Event} (made : log.emitted? step = some e) :
    e.number? = some ((log.drawn + 1 : Nat) : Int) ∧ step.draws = 1 := by
  cases step with
  | emit kind members =>
      cases read : (EventDetails.read members).run with
      | ok details =>
          simp only [emitted?, read, Option.some.injEq] at made
          exact ⟨made ▸ next_number { kind, details } log, rfl⟩
      | error faults => simp only [emitted?, read, reduceCtorEq] at made
  | publish | subscribe | unsubscribe | addClient | removeClient | clearHistory | tick => cases made

theorem emitted_numbers (steps : List LogStep) (log : EventLog) :
    ∃ numbers : List Int, (log.emitted steps).map Event.number? = numbers.map some ∧
      numbers.Pairwise (· < ·) ∧ ∀ n ∈ numbers, (log.drawn : Int) < n := by
  -- The numbers of the rest are above what the log has drawn after the first step.
  induction steps generalizing log with
  | nil => exact ⟨[], rfl, List.Pairwise.nil, by simp⟩
  | cons step rest ih =>
      obtain ⟨numbers, later, rising, above⟩ := ih (log.after step)
      have drawn := (after_moves step log).drawn
      cases made : log.emitted? step with
      | none =>
          refine ⟨numbers, ?_, rising, fun n here => ?_⟩
          · rw [emitted, made]
            exact later
          · have := above n here
            omega
      | some e =>
          obtain ⟨number, draws⟩ := emitted?_number made
          refine ⟨((log.drawn + 1 : Nat) : Int) :: numbers, ?_, ?_, ?_⟩
          · rw [emitted, made, Option.toList_some, List.singleton_append, List.map_cons, number, later,
              List.map_cons]
          · refine List.pairwise_cons.mpr ⟨fun n here => ?_, rising⟩
            have := above n here
            omega
          · intro n here
            rcases List.mem_cons.mp here with rfl | here
            · omega
            · have := above n here
              omega

end

/-- Of the events published since the history was last cleared a new log keeps the last ones, up to
its limit, and shows the last ones of those that are asked for; the numbers of its own events rise;
and the next step calls those whose registration is in force for the kind of its event, each as often
and in the order in which they registered. -/
theorem run_recounts (clock : Clock) (limit : Int) (bounded : 0 ≤ limit) (steps : List LogStep) :
    let log : EventLog := { clock, limit }
    let since := log.sinceCleared [] steps
    (log.run steps).history = since.rtake (min limit.toNat since.length) ∧
    (∀ (script : Option Text) (kind : Option EventKind) (shown : Int), script ≠ some "" → 1 ≤ shown →
      let fitting := (log.run steps).history.filter (Event.fits script kind)
      (log.run steps).events script kind shown =
        fitting.rtake (min shown.toNat fitting.length)) ∧
    (∃ numbers : List Int, (log.emitted steps).map Event.number? = numbers.map some ∧
      numbers.Pairwise (· < ·)) ∧
    ∀ step, ((log.run steps).handout step).calls =
      ((log.run steps).published? step).elim [] fun e =>
        (inForce e.kind steps).map fun s => (s, e) := by
  intro log since
  have most {α : Type} (n : Nat) (items : List α) : items.rtake (min n items.length) = items.rtake n := by
    rw [List.rtake, List.rtake]
    congr 1
    omega
  refine ⟨?_, ?_, ?_, ?_⟩
  · have whole : log.limit = (limit.toNat : Int) := (Int.toNat_of_nonneg bounded).symm
    rw [most, run_history whole [] (List.rtake_nil _).symm steps]
  · intro script kind shown named positive fitting
    rw [most, events_eq named kind positive]
  · obtain ⟨numbers, made, rising, -⟩ := emitted_numbers steps log
    exact ⟨numbers, made, rising⟩
  · intro step
    rw [handout_calls]
    congr 1
    funext e
    rw [run_subscribers, inForce]
    rfl

def busyClock : Clock := { time := "2024-01-02T03:04:05.600007", stamp := "20240102030405600007" }

def laterClock : Clock := { time := "2024-01-02T03:04:06", stamp := "20240102030406000000" }

/-- Two subscribers, of which one fails and is registered twice, and a client that takes nothing; an
emission with wrong details draws a number that no event gets; time passes before the last emission. -/
def busyRun : List LogStep :=
  [.subscribe .info ⟨"failing", .fail⟩, .subscribe .info ⟨"waiting", .async⟩,
    .subscribe .info ⟨"failing", .fail⟩, .addClient "deaf" (some 0), .emit .info [],
    .emit .warning [("script_id", .str "main")], .emit .info [("node_id", .int 3)], .tick laterClock,
    .emit .info [("script_id", .str "main")], .unsubscribe .info ⟨"failing", .fail⟩]

theorem run_recounts_busy :
    let log : EventLog := { clock := busyClock, limit := 2 }
    (0 : Int) ≤ 2 ∧
      (log.run busyRun).history.map (fun e => (e.number?, e.time)) =
        [(some 2, Text.ofString busyClock.time), (some 4, Text.ofString laterClock.time)] ∧
      ((log.run busyRun).events (some "main") (some .info) 1).map Event.number? = [some 4] ∧
      (log.emitted busyRun).map Event.number? = [some 1, some 2, some 4] ∧
      ((log.run busyRun).handout (.emit .info [])).calls.map (fun call => (call.1.name, call.2.number?)) =
        [(("waiting" : Text), some 5), (("failing" : Text), some 5)] := by
  intro log
  obtain ⟨history, events, -, calls⟩ := run_recounts busyClock 2 (by decide) busyRun
  refine ⟨by decide, ?_, ?_, ?_, ?_⟩
  · rw [history]
    decide +kernel
  · rw [events (some "main") (some .info) 1 (by decide) (by decide)]
    decide +kernel
  · decide +kernel
  · rw [calls]
    decide +kernel

end EventLog

end NodeScript
