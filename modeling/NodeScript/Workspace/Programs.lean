import NodeScript.Program.Compile
import NodeScript.Program.Listing
import NodeScript.Workspace

namespace NodeScript.Workspace

def compiled (p : Program) : Announcement :=
  .ofScript p.script (if p.ok then .scriptCompiled else .compileFailed)
    { data := some [("roots", .int p.roots.length),
        ("failed", Json.ofTexts ((p.roots.filter fun r => !r.ok).map (·.event))),
        ("warnings", .int p.warnings.length)] }

def compile (c : Catalog) (script : Option Text) (w : Workspace) : Outcome Program :=
  w.onScript script fun s =>
    let p := NodeScript.compile c s
    { answer := .ok p, announcements := [compiled p], workspace := w }

def listing (c : Catalog) (script : Option Text) (w : Workspace) : Outcome Text :=
  w.onScript script fun s =>
    let p := NodeScript.compile c s
    { answer := .ok (p.listing (some s.name)), announcements := [compiled p], workspace := w }

end NodeScript.Workspace
