import NodeScript.Editor
import NodeScript.Event
import NodeScript.Storage.Files

/-!
A workspace: a project, an editor for each script that was worked on, the recent types, and the
files in which they are kept if there is a place for files. The recent types may be replaced by a
list from the files; editors that were opened before stay with their list. An operation gives its
answer or an error, the announcements of what happened, and the workspace it leaves.
-/
namespace NodeScript

/-- An editor with the number of the list of recent types it was opened with. -/
structure OpenEditor where
  editor : Editor
  list : Nat := 0
  deriving DecidableEq, Repr

structure Workspace where
  project : Project := {}
  recents : Recents := {}
  earlier : List Recents := []
  editors : List (Text × OpenEditor) := []
  ids : IdSupply := {}
  files : Option Files := none
  lastAudit : List (Text × List Diagnostic) := []
  deriving Inhabited

structure Outcome (α : Type) where
  answer : Except EditError α
  announcements : List Announcement := []
  workspace : Workspace

namespace Announcement

def ofScript (script : Text) (kind : EventKind) (details : EventDetails := {}) : Announcement :=
  { kind, details := { details with script := some script } }

end Announcement

namespace Workspace

def failed {α : Type} (e : EditError) (w : Workspace) : Outcome α := { answer := .error e, workspace := w }

/-- The id that is meant: the current script's if none or an empty one is given. -/
def meant (script : Option Text) (w : Workspace) : Option Text :=
  match script with
  | some id => if id = "" then w.project.currentScript else some id
  | none => w.project.currentScript

def script (given : Option Text) (w : Workspace) : Except GraphError Script :=
  match w.meant given with
  | none => .error (.scriptNotFound none)
  | some id =>
    match if id = "" then none else w.project.script? id with
    | some s => .ok s
    | none => .error (.scriptNotFound (some id))

def onScript {α : Type} (given : Option Text) (f : Script → Outcome α) (w : Workspace) : Outcome α :=
  match w.script given with
  | .ok s => f s
  | .error e => w.failed (.graph e)

def setScript (s : Script) (w : Workspace) : Workspace :=
  { w with project := w.project.replaceScript s.id s }

def presentList (w : Workspace) : Nat := w.earlier.length

def listOf (script : Text) (w : Workspace) : Nat :=
  (w.editors.lookup script).elim w.presentList (·.list)

def recentsIn (list : Nat) (w : Workspace) : Recents := (w.earlier[list]?).getD w.recents

def setRecents (list : Nat) (r : Recents) (w : Workspace) : Workspace :=
  if list < w.presentList then { w with earlier := w.earlier.set list r } else { w with recents := r }

/-- Takes up another list of recent types for all editors that are opened from here on. -/
def replaceRecents (r : Recents) (w : Workspace) : Workspace :=
  { w with recents := r, earlier := w.earlier ++ [w.recents] }

def desk (s : Script) (w : Workspace) : Desk :=
  match w.editors.lookup s.id with
  | some found => { script := s, editor := found.editor, recents := w.recentsIn found.list, ids := w.ids }
  | none => Desk.start s w.recents w.ids

def putDesk (d : Desk) (w : Workspace) : Workspace :=
  let list := w.listOf d.script.id
  { w.setRecents list d.recents with
    project := w.project.replaceScript d.script.id d.script
    editors := Entries.put w.editors d.script.id { editor := d.editor, list }
    ids := d.ids }

/-- Works at the editor of a script, which stays at its script also when the work fails. -/
def atDesk {α : Type} (given : Option Text)
    (work : Desk → Except EditError α × List Announcement × Desk) (w : Workspace) : Outcome α :=
  w.onScript given fun s =>
    let (answer, announcements, d) := work (w.desk s)
    { answer, announcements, workspace := w.putDesk d }

end Workspace

end NodeScript
