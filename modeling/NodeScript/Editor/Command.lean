import NodeScript.Editor
import NodeScript.Script.Record

namespace NodeScript.Desk

def prior : Editor → Selection
  | .commanding surface => surface.prior
  | .resting selection _ => selection

/-- Opens a surface at two coordinates, which have to be numbers. The search starts before they are
looked at. -/
def openCommandSurface (c : Catalog) (x y : Json) (query : Text) (d : Desk) :
    Except (List Fault) Session × Desk :=
  let session := Session.start c (some d.recents) query
  match (Position.read (.obj [("x", x), ("y", y)])).run with
  | .ok position =>
    (.ok session, { d with editor := .commanding { position, session, prior := prior d.editor } })
  | .error faults => (.error faults, { d with editor := d.editor.withSession session })

def commandType? (c : Catalog) (type : Option Text) (session : Session) :
    Except GraphError (Option Template) :=
  match type with
  | some given => (c.template given).map some
  | none => .ok session.current?

def commitCommand (c : Catalog) (type : Option Text) (d : Desk) :
    Except GraphError (Option Node × Desk) :=
  match d.editor with
  | .resting .. => .ok (none, d)
  | .commanding surface => do
    let some t ← commandType? c type surface.session | pure (none, d)
    let draft : NodeDraft := { type := t.type, position := some surface.position }
    let (n, s, ids) ← d.script.addNode c draft d.ids
    pure (some n, { d with script := s, ids, recents := d.recents.record t.type }.choose .nothing)

/-- Sets the session and the recent types, which the session shares. -/
def setSession (session : Session) (recents : Recents) (d : Desk) : Desk :=
  { d with editor := d.editor.withSession session, recents }

end NodeScript.Desk
