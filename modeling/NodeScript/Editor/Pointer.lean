import NodeScript.Editor

namespace NodeScript.Desk

/-- The selection after a click on a node, which an additive click puts behind the nodes that are
selected already. -/
def withNode (id : Text) (additive : Bool) : Selection → Selection
  | .nodes ids => .nodes (if additive then (if id ∈ ids then ids else ids ++ [id]) else [id])
  | _ => .nodes [id]

def clickNode (id : Option Text) (additive : Bool) (d : Desk) : Except GraphError Desk := do
  let n ← d.script.requireNode id
  let d := d.cancelCommand.toDesk
  pure (d.choose (withNode n.id additive d.editor.selection))

def clickCanvas (d : Desk) : Desk := d.cancelCommand.choose .nothing

def clickConnection (id : Option Text) (d : Desk) : Except GraphError Desk := do
  let k ← d.script.requireConnection id
  pure (d.cancelCommand.choose (.connection k.id))

/-- Selects the nodes that are in no group. -/
def selectAll (d : Desk) : Desk :=
  let d := d.cancelCommand.toDesk
  let free := d.script.nodes.filter fun n => n.parentId.all fun (id : Text) => id = ""
  d.choose (.ofNodes (free.map (·.id)))

def beginConnection (c : Catalog) (node port : Option Text) (d : Desk) : Except GraphError Desk := do
  let n ← d.script.requireNode node
  let t ← c.templateOf n
  let some output := port.bind t.output? | throw (.outputNotFound n.id port)
  pure (d.cancelCommand.choose (.drag n.id output.name))

def dragLink? (node port : Option Text) (d : Desk) : Option LinkDraft :=
  match d.editor with
  | .resting (.drag fromNode fromPort) _ => some { fromNode, fromPort, toNode := node, toPort := port }
  | _ => none

/-- The drag is over even if the connection is refused. -/
def releaseOnPort (c : Catalog) (node port : Option Text) (d : Desk) :
    Except GraphError (Option Connection) × Desk :=
  match d.dragLink? node port with
  | none => (.ok none, d)
  | some link =>
    let d := d.choose .nothing
    match d.script.connect c link d.ids with
    | .ok (k, s, ids) => (.ok (some k), { d with script := s, ids })
    | .error e => (.error e, d)

def releaseElsewhere (d : Desk) : Desk :=
  match d.editor with
  | .resting (.drag ..) _ => d.choose .nothing
  | _ => d

def canReleaseOn (c : Catalog) (node port : Option Text) (d : Desk) : Bool :=
  (d.dragLink? node port).any fun link => d.script.canConnect c link

end NodeScript.Desk
