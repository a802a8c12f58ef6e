import NodeScript.EventLog
import NodeScript.Http.Service

namespace NodeScript.Http

structure Host where
  service : Service := {}
  log : EventLog

namespace Host

def announce (announcements : List Announcement) (h : Host) : List Event × List Delivery × Host :=
  let (events, log) := h.log.number announcements
  let (handout, log) := log.publishAll events
  (events, handout.deliveries, { h with log })

def withWorkspace (w : Workspace) (h : Host) : Host :=
  { h with service := { h.service with workspace := w } }

/-- The events a client is sent when it connects at a path, none if it cannot connect there. -/
def greeting? (path : String) (h : Host) : Option (List Event) :=
  if isEventsPlace path then some (latest EventLog.shownToNew h.log.history) else none

end Host

end NodeScript.Http
