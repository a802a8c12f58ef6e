import NodeScript.Editor.Command
import NodeScript.Storage.RecentsFile
import NodeScript.Workspace.Editing

namespace NodeScript

namespace Workspace

def projectPath : Text := "project.json"

def recentsPath : Text := "recent_nodes.json"

/-- Nothing happens if there is no place for files or the file cannot be written. -/
def saveRecents (w : Workspace) : Workspace :=
  { w with files := w.files.map fun f => (RecentsFile.save w.recents recentsPath f).2 }

/-- The announcement tells the coordinates as they were given. -/
def openCommandSurface (c : Catalog) (script : Option Text) (x y : Json) (query : Text)
    (w : Workspace) : Outcome Session :=
  w.atDesk script fun d =>
    match d.openCommandSurface c x y query with
    | (.ok session, d) =>
      (.ok session, [.ofScript d.script.id .surfaceOpened { data := some [("x", x), ("y", y)] }], d)
    | (.error faults, d) => (.error (.invalid faults), [], d)

def atSession {α : Type} (script : Option Text)
    (work : Session → Recents → α × Session × Recents) (w : Workspace) : Outcome α :=
  w.atDesk script fun d =>
    match d.editor.session? with
    | none => (.error (.graph (.noCommandSurface d.script.id)), [], d)
    | some session =>
      let (answer, session, recents) := work session d.recents
      (.ok answer, [], d.setSession session recents)

def session (script : Option Text) (w : Workspace) : Outcome Session :=
  w.atSession script fun s recents => (s, s, recents)

def commitAnnouncements (script : Text) (n : Node) : List Announcement :=
  [.ofScript script .nodeAdded { node := some n.id, data := some [("type", .str n.type)] },
   .ofScript script .surfaceClosed]

def commitCommand (c : Catalog) (script type : Option Text) (w : Workspace) : Outcome (Option Node) :=
  let outcome := w.atDesk script fun d =>
    match d.commitCommand c type with
    | .error e => (.error (.graph e), [], d)
    | .ok (n, d) => (.ok n, n.toList.flatMap (commitAnnouncements d.script.id), d)
  match outcome.answer with
  | .ok (some _) => { outcome with workspace := outcome.workspace.saveRecents }
  | _ => outcome

def cancelCommand (script : Option Text) (w : Workspace) : Outcome Editor :=
  w.atDesk script fun d =>
    let d := d.cancelCommand.toDesk
    (.ok d.editor, [.ofScript d.script.id .surfaceClosed], d)

end Workspace

end NodeScript
