import NodeScript.Project.Edit
import NodeScript.Workspace

namespace NodeScript

inductive ScriptDeletion where
  | unconfirmed (script : Script)
  | removed (id : Text)
  deriving DecidableEq, Repr

namespace ScriptDeletion

def toJson : ScriptDeletion → Json
  | unconfirmed s =>
    .obj [("status", .str "confirmation_required"), ("script_id", .str s.id),
      ("nodes", .int s.nodes.length), ("connections", .int s.connections.length)]
  | removed id => .obj [("status", .str "removed"), ("script_id", .str id)]

end ScriptDeletion

instance : Record ScriptDeletion where
  toJson := ScriptDeletion.toJson

namespace Workspace

/-- Forgets the project and the recent types; the files stay. -/
def clear (w : Workspace) : Outcome Unit :=
  { answer := .ok ()
    announcements := [⟨.managerCleared, {}⟩]
    workspace := { w with project := {}, editors := [], recents := w.recents.clear } }

def summary (w : Workspace) (s : Script) : Json :=
  .obj [("id", .str s.id), ("name", .str s.name), ("description", Json.ofText? s.description),
    ("nodes", .int s.nodes.length), ("connections", .int s.connections.length),
    ("current", .bool (w.project.currentScript = some s.id))]

def summaries (w : Workspace) : List Json := w.project.scripts.map w.summary

def named (s : Script) (kind : EventKind) : Announcement :=
  .ofScript s.id kind { data := some [("name", .str s.name)] }

def createScript (name : Text) (description : Option Text) (w : Workspace) : Outcome Script :=
  let (s, project, ids) := w.project.createScript name description w.ids
  { answer := .ok s
    announcements := [named s .scriptCreated]
    workspace := { w with project, ids } }

def renameScript (id : Option Text) (name : Text) (w : Workspace) : Outcome Script :=
  match w.project.renameScript id name with
  | .error e => w.failed e
  | .ok (s, project) =>
    { answer := .ok s
      announcements := [named s .scriptRenamed]
      workspace := { w with project } }

def duplicateScript (id name : Option Text) (w : Workspace) : Outcome Script :=
  match w.project.duplicateScript id name w.ids with
  | .error e => w.failed (.graph e)
  | .ok (s, project, ids) =>
    { answer := .ok s
      announcements := [.ofScript s.id .scriptDuplicated
        { data := some [("source_id", Json.ofText? id), ("name", .str s.name)] }]
      workspace := { w with project, ids } }

def deleteScript (id : Option Text) (confirmed : Bool) (w : Workspace) : Outcome ScriptDeletion :=
  w.onScript id fun s =>
    if confirmed then
      match w.project.deleteScript s.id with
      | .error e => w.failed (.graph e)
      | .ok (_, project) =>
        { answer := .ok (.removed s.id)
          announcements := [.ofScript s.id .scriptRemoved]
          workspace := { w with project, editors := w.editors.filter (·.1 ≠ s.id) } }
    else { answer := .ok (.unconfirmed s), workspace := w }

def selectScript (id : Option Text) (w : Workspace) : Outcome (Option Script) :=
  match w.project.setCurrentScript id with
  | .error e => w.failed (.graph e)
  | .ok (s, project) =>
    { answer := .ok s
      announcements := [⟨.scriptSelected, { script := id }⟩]
      workspace := { w with project } }

end Workspace

end NodeScript
