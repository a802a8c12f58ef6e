import NodeScript.Storage.ProjectFile
import NodeScript.Workspace.Commands

namespace NodeScript.Workspace

/-- Whether the project was written. The recent types are written too, unless the project has no
written form. -/
def saveProject (time : String) (w : Workspace) : Outcome Bool :=
  match w.files with
  | none => { answer := .ok false, workspace := w }
  | some files =>
    match ProjectFile.save time w.project projectPath files with
    | .error fault => w.failed (.notWritten fault)
    | .ok (false, files) => { answer := .ok false, workspace := { w with files := some files }.saveRecents }
    | .ok (true, files) =>
      { answer := .ok true
        announcements := [⟨.projectSaved,
          { data := some [("scripts", .int w.project.scripts.length)] }⟩]
        workspace := { w with files := some files }.saveRecents }

def loaded (p : Project) (audit : List (Text × List Diagnostic)) : Announcement :=
  ⟨.projectLoaded, { data := some [("scripts", .int p.scripts.length),
    ("issues", .obj (audit.map fun entry => (entry.1, .int entry.2.length)))] }⟩

def loadProject (c : Catalog) (w : Workspace) : Outcome Project :=
  match w.files with
  | none => { answer := .ok w.project, workspace := w }
  | some files =>
    let (project, ids) := ProjectFile.load files projectPath w.ids
    let lastAudit := project.audit c
    { answer := .ok project
      announcements := [loaded project lastAudit]
      workspace := { w with project, ids, editors := [], lastAudit } }

def loadRecents (c : Catalog) (w : Workspace) : Workspace :=
  match w.files with
  | none => w
  | some files => w.replaceRecents (RecentsFile.load files recentsPath 8 (some c))

def start (c : Catalog) (w : Workspace) : Outcome Unit :=
  let w := w.loadRecents c
  if w.files.any fun files => files.holds projectPath then
    let outcome := w.loadProject c
    { outcome with answer := outcome.answer.map fun _ => () }
  else { answer := .ok (), workspace := w }

def restarted (c : Catalog) (w : Workspace) : Outcome Unit :=
  start c { ids := w.ids, files := w.files }

end NodeScript.Workspace
