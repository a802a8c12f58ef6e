import NodeScript.Clock
import NodeScript.Event
import NodeScript.Slice

/-!
The log of events. It keeps the last ones, calls the subscribers of an event's kind in the order of
their registration, and sends every event to its clients. A client first gets the last events that
are kept; one that fails to take an event is dropped. Clients are told apart by their numbers; of
those that were added under one name, the last one has it. What a call of the log hands out is its
list of deliveries.
-/
namespace NodeScript

inductive CallMode where
  | sync | async | fail
  deriving DecidableEq, Repr, Inhabited

/-- A subscriber is the same as another of its name and mode. What a call does to it matters to
no one else. -/
structure Subscriber where
  name : Text
  mode : CallMode := .sync
  deriving DecidableEq, Repr

inductive Message where
  | history (events : List Event)
  | event (event : Event)
  deriving DecidableEq, Repr

/-- A client takes so many messages, or all of them if it has no limit. -/
structure Client where
  number : Nat
  takes : Option Int := none
  taken : Nat := 0
  deriving DecidableEq, Repr

inductive Delivery where
  | call (subscriber : Subscriber) (event : Event)
  | message (client : Nat) (message : Message)
  deriving DecidableEq, Repr

inductive LogError where
  | notSubscribed
  | sendFailed
  | notWritten (fault : WriteFault)
  deriving DecidableEq, Repr

structure Handout where
  deliveries : List Delivery := []
  error : Option LogError := none
  deriving DecidableEq, Repr

structure EventLog where
  clock : Clock
  limit : Int := 1000
  history : List Event := []
  drawn : Nat := 0
  registrations : List (EventKind × Subscriber) := []
  /-- The kinds that have ever had a subscriber. -/
  subscribed : List EventKind := []
  clients : List Client := []
  added : Nat := 0
  names : List (Text × Nat) := []
  deriving DecidableEq, Repr

namespace LogError

def message : LogError → Text
  | notSubscribed => "list.remove(x): x not in list"
  | sendFailed => ""
  | notWritten fault => fault.message

end LogError

namespace Client

def takesMore (c : Client) : Bool := c.takes.all fun n => decide ((c.taken : Int) < n)

def take (c : Client) : Client := { c with taken := c.taken + 1 }

end Client

namespace EventLog

/-- A new event goes behind the others; if they are too many then, the first one goes. -/
def remember (limit : Int) (history : List Event) (e : Event) : List Event :=
  let longer := history ++ [e]
  if limit < longer.length then longer.drop 1 else longer

def subscribers (log : EventLog) (kind : EventKind) : List Subscriber :=
  (log.registrations.filter fun r => r.1 = kind).map (·.2)

def calls (log : EventLog) (e : Event) : List Delivery :=
  (log.subscribers e.kind).map fun subscriber => .call subscriber e

def receivers (log : EventLog) : List Client := log.clients.filter Client.takesMore

/-- An event that cannot be written is kept and calls its subscribers, but no client gets it. -/
def publish (e : Event) (log : EventLog) : Handout × EventLog :=
  let history := remember log.limit log.history e
  match if log.clients = [] then none else Record.fault? e with
  | some fault =>
    ({ deliveries := log.calls e, error := some (.notWritten fault) }, { log with history })
  | none =>
    ({ deliveries := log.calls e ++ log.receivers.map fun c => .message c.number (.event e) },
      { log with history, clients := log.receivers.map Client.take })

def eventId (clock : Clock) (n : Nat) : Text := "evt_" ++ clock.stamp ++ "_" ++ Decimal.natText n

def draw (log : EventLog) : EventLog := { log with drawn := log.drawn + 1 }

def next (a : Announcement) (log : EventLog) : Event :=
  { id := eventId log.clock (log.drawn + 1), kind := a.kind, time := log.clock.time,
    details := a.details }

def number : List Announcement → EventLog → List Event × EventLog
  | [], log => ([], log)
  | a :: rest, log =>
    let (more, later) := number rest log.draw
    (log.next a :: more, later)

def publishAll : List Event → EventLog → Handout × EventLog
  | [], log => ({}, log)
  | e :: rest, log =>
    let (first, log) := log.publish e
    let (more, log) := publishAll rest log
    ({ deliveries := first.deliveries ++ more.deliveries, error := first.error.or more.error }, log)

def announce (a : Announcement) (log : EventLog) : Handout × EventLog :=
  log.draw.publish (log.next a)

/-- Announces an event whose details are given as members of a record; an id is drawn for it even
if they are wrong. -/
def emit (kind : EventKind) (members : Members) (log : EventLog) :
    Except (List Fault) Handout × EventLog :=
  match (EventDetails.read members).run with
  | .ok details =>
    let (handout, log) := log.announce { kind, details }
    (.ok handout, log)
  | .error faults => (.error faults, log.draw)

def subscribe (kind : EventKind) (s : Subscriber) (log : EventLog) : EventLog :=
  { log with registrations := log.registrations ++ [(kind, s)]
             subscribed := if kind ∈ log.subscribed then log.subscribed else log.subscribed ++ [kind] }

/-- Removes the first registration. It is no error that there is none if the kind has never had a
subscriber. -/
def unsubscribe (kind : EventKind) (s : Subscriber) (log : EventLog) : Except LogError EventLog :=
  if (kind, s) ∈ log.registrations then
    .ok { log with registrations := log.registrations.erase (kind, s) }
  else if kind ∈ log.subscribed then .error .notSubscribed
  else .ok log

def shownToNew : Int := 50

def register (name : Text) (c : Client) (log : EventLog) : EventLog :=
  { log with clients := log.clients ++ [c], added := c.number, names := Entries.put log.names name c.number }

/-- Registers a client and sends it what is kept. It stays registered if it fails to take that. -/
def addClient (name : Text) (takes : Option Int) (log : EventLog) : Handout × EventLog :=
  let c : Client := { number := log.added + 1, takes }
  let shown := latest shownToNew log.history
  if shown = [] then ({}, log.register name c)
  else match Record.fault? shown with
    | some fault => ({ error := some (.notWritten fault) }, log.register name c)
    | none =>
      if c.takesMore then
        ({ deliveries := [.message c.number (.history shown)] }, log.register name c.take)
      else ({ error := some .sendFailed }, log.register name c)

def removeClient (name : Text) (log : EventLog) : EventLog :=
  match log.names.lookup name with
  | some number => { log with clients := log.clients.filter (·.number ≠ number) }
  | none => log

def heard (log : EventLog) (deliveries : List Delivery) : List (Text × Message) :=
  deliveries.filterMap fun
    | .message number m => (log.names.find? (·.2 = number)).map fun entry => (entry.1, m)
    | .call .. => none

def defaultLimit : Int := 100

/-- The kept events of a script and a kind; an empty script id stands for all scripts. -/
def events (log : EventLog) (script : Option Text := none) (kind : Option EventKind := none)
    (limit : Int := defaultLimit) : List Event :=
  latest limit <| log.history.filter fun e =>
    (script.all fun (id : Text) => id = "" || e.details.script = some id) && kind.all (· = e.kind)

def clearHistory (log : EventLog) : EventLog := { log with history := [] }

def tick (clock : Clock) (log : EventLog) : EventLog := { log with clock }

end EventLog

end NodeScript
