import NodeScript.Editor.Copy
import NodeScript.Editor.Record
import NodeScript.Workspace.Graph

namespace NodeScript.Workspace

def selectionChanged (d : Desk) : Announcement :=
  .ofScript d.script.id .selectionChanged { data := some d.editor.members }

def selected (d : Desk) : Except EditError Editor × List Announcement × Desk :=
  (.ok d.editor, [selectionChanged d], d)

def nodeChanged (d : Desk) (kind : EventKind) (node : Text) : Announcement :=
  .ofScript d.script.id kind { node := some node }

def editor (script : Option Text) (w : Workspace) : Outcome Editor :=
  w.atDesk script fun d => (.ok d.editor, [], d)

def select (script : Option Text) (change : Desk → Except GraphError Desk) (w : Workspace) :
    Outcome Editor :=
  w.atDesk script fun d =>
    match change d with
    | .ok d => selected d
    | .error e => (.error (.graph e), [], d)

def clickNode (script node : Option Text) (additive : Bool) (w : Workspace) : Outcome Editor :=
  w.select script (Desk.clickNode node additive)

def clickConnection (script connection : Option Text) (w : Workspace) : Outcome Editor :=
  w.select script (Desk.clickConnection connection)

def clickCanvas (script : Option Text) (w : Workspace) : Outcome Editor :=
  w.select script fun d => .ok d.clickCanvas

def selectAll (script : Option Text) (w : Workspace) : Outcome Editor :=
  w.select script fun d => .ok d.selectAll

def beginConnection (c : Catalog) (script node port : Option Text) (w : Workspace) : Outcome Editor :=
  w.select script (Desk.beginConnection c node port)

/-- Without a node and a port the drag ends nowhere. -/
def releaseConnection (c : Catalog) (script node port : Option Text) (w : Workspace) :
    Outcome (Option Connection) :=
  w.atDesk script fun d =>
    match node, port with
    | some node, some port =>
      match d.releaseOnPort c node port with
      | (.error e, d) => (.error (rejected e), rejection d.script.id e, d)
      | (.ok k, d) =>
        (.ok k, k.toList.map fun k =>
          .ofScript d.script.id .connectionAdded { connection := some k.id }, d)
    | _, _ =>
      let d := d.releaseElsewhere
      (.ok none, [selectionChanged d], d)

def deletionAnnouncements (d : Desk) (deletion : Deletion) : List Announcement :=
  match deletion.reason? with
  | some reason => [.ofScript d.script.id .deleteRefused { data := some [("reason", .str reason)] }]
  | none =>
    deletion.removal.nodes.map (nodeChanged d .nodeRemoved) ++
      deletion.removal.connections.map (fun id =>
        .ofScript d.script.id .connectionRemoved { connection := some id }) ++
      [selectionChanged d]

def announceDeletion (outcome : Except GraphError Deletion × Desk) :
    Except EditError Deletion × List Announcement × Desk :=
  match outcome with
  | (.ok deletion, d) => (.ok deletion, deletionAnnouncements d deletion, d)
  | (.error e, d) => (.error (.graph e), [], d)

def deleteNode (c : Catalog) (script node : Option Text) (w : Workspace) : Outcome Deletion :=
  w.atDesk script fun d => announceDeletion (d.deleteNode c node)

def deleteSelection (c : Catalog) (script : Option Text) (w : Workspace) : Outcome Deletion :=
  w.atDesk script fun d => announceDeletion (d.deleteSelection c)

def copyAnnouncements (d : Desk) (copies : List Node) : List Announcement :=
  if copies = [] then []
  else [.ofScript d.script.id .nodeDuplicated
      { data := some [("node_ids", Json.ofTexts (copies.map (·.id)))] }, selectionChanged d]

def duplicateSelection (c : Catalog) (script : Option Text) (offset : Float) (w : Workspace) :
    Outcome (List Node) :=
  w.atDesk script fun d =>
    match d.duplicateSelection c offset with
    | (.ok copies, d) => (.ok copies, copyAnnouncements d copies, d)
    | (.error e, d) => (.error (.graph e), [], d)

def moveSelection (script : Option Text) (dx dy : Float) (w : Workspace) : Outcome (List Node) :=
  w.atDesk script fun d =>
    let (moved, d) := d.moveSelection dx dy
    (.ok moved, moved.map fun n => nodeChanged d .nodeUpdated n.id, d)

def renameNode (script node : Option Text) (label : Text) (w : Workspace) : Outcome Node :=
  w.atDesk script fun d =>
    match d.script.renameNode node label with
    | .error e => (.error (.graph e), [], d)
    | .ok (n, s) =>
      (.ok n, [.ofScript s.id .nodeUpdated
        { node := some n.id, data := some [("label", Json.ofText? n.label)] }], { d with script := s })

end NodeScript.Workspace
