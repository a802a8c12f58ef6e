import NodeScript.Script.Edit
import NodeScript.Workspace

namespace NodeScript.Workspace

def rejection (script : Text) (e : GraphError) : List Announcement :=
  e.diagnostic.toOption.toList.map fun d =>
    .ofScript script .connectionRejected { data := some d.members, error := some e.message }

/-- The error of a refused connection, which is that of its diagnostic if there is none. -/
def rejected (e : GraphError) : EditError :=
  match e.diagnostic with
  | .ok _ => .graph e
  | .error faults => .invalid faults

def addNode (c : Catalog) (script : Option Text) (draft : NodeDraft) (w : Workspace) : Outcome Node :=
  w.onScript script fun s =>
    match s.addNode c draft w.ids with
    | .error e => w.failed (.graph e)
    | .ok (n, s, ids) =>
      { answer := .ok n
        announcements := [.ofScript s.id .nodeAdded
          { node := some n.id, data := some [("type", .str n.type)] }]
        workspace := { w.setScript s with ids } }

def updateNode (script node : Option Text) (change : NodeChange) (w : Workspace) : Outcome Node :=
  w.onScript script fun s =>
    match s.updateNode node change with
    | .error e => w.failed (.graph e)
    | .ok (n, s) =>
      { answer := .ok n
        announcements := [.ofScript s.id .nodeUpdated { node := some n.id }]
        workspace := w.setScript s }

def connect (c : Catalog) (script : Option Text) (link : LinkDraft) (w : Workspace) : Outcome Connection :=
  w.onScript script fun s =>
    match s.connect c link w.ids with
    | .error e =>
      { answer := .error (rejected e), announcements := rejection s.id e, workspace := w }
    | .ok (k, s, ids) =>
      { answer := .ok k
        announcements := [.ofScript s.id .connectionAdded { connection := some k.id }]
        workspace := { w.setScript s with ids } }

def deleteConnection (c : Catalog) (script connection : Option Text) (w : Workspace) :
    Outcome (List Text) :=
  w.onScript script fun s =>
    match s.deleteConnection c connection with
    | .error e => w.failed (.graph e)
    | .ok (removed, s) =>
      { answer := .ok removed
        announcements := removed.map fun id => .ofScript s.id .connectionRemoved { connection := some id }
        workspace := w.setScript s }

def addVariable (script : Option Text) (draft : VariableDraft) (w : Workspace) : Outcome Variable :=
  w.onScript script fun s =>
    let (v, s, ids) := s.addVariable draft w.ids
    { answer := .ok v
      announcements := [.ofScript s.id .variableAdded
        { data := some [("variable_id", .str v.id), ("name", .str v.name)] }]
      workspace := { w.setScript s with ids } }

def deleteVariable (script id : Option Text) (w : Workspace) : Outcome Unit :=
  w.onScript script fun s =>
    match s.deleteVariable id with
    | .error e => w.failed (.graph e)
    | .ok s =>
      { answer := .ok ()
        announcements := [.ofScript s.id .variableRemoved { data := some [("variable_id", Json.ofText? id)] }]
        workspace := w.setScript s }

end NodeScript.Workspace
