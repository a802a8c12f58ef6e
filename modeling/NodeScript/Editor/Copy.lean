import NodeScript.Editor
import NodeScript.Project.Edit

/-!
Moving and copying the selected nodes. The copies get fresh ids and become the selection; the
connections among the selected nodes are copied too, but for those that would cross the contexts
because their bridge was not copied.
-/
namespace NodeScript

namespace Position

def shift (dx dy : Float) (p : Position) : Position := { x := p.x + dx, y := p.y + dy }

end Position

namespace Desk

def isSelected (selection : Selection) (n : Node) : Bool := selection.nodeIds.contains n.id

def defaultOffset : Float := 40

/-- A parent that was not copied stays the parent. -/
def copiedNode (copies : List (Node × Text)) (offset : Float) (n : Node) : Node :=
  { n with
    id := (copyOf? copies n.id).getD n.id
    position := n.position.shift offset offset
    parentId := n.parentId.map fun parent => (copyOf? copies parent).getD parent }

def keepsContext (c : Catalog) (copies : List Node) (bridged : List Text) (k : Connection) :
    Except GraphError Bool :=
  match lastNode? copies k.fromNode, lastNode? copies k.toNode with
  | some fromNode, some toNode => do
    let source ← c.templateOf fromNode
    let target ← c.templateOf toNode
    pure (crossingAllowed fromNode.id source target bridged)
  | _, _ => pure false

def keptConnections (c : Catalog) (copies : List Node) (bridged : List Text) :
    List Connection → Except GraphError (List Connection)
  | [] => .ok []
  | k :: rest => do
    let kept ← keepsContext c copies bridged k
    let more ← keptConnections c copies bridged rest
    pure (if kept then k :: more else more)

def duplicateNodes (c : Catalog) (offset : Float) (selected : List Node) (d : Desk) :
    Except GraphError (List Node) × Desk :=
  let (drawn, ids) := d.ids.drawFor selected
  let copies := selected.map (copiedNode drawn offset)
  let (connections, ids) := copiedConnections drawn d.script.connections ids
  let d := { d with ids }
  let nodes := d.script.nodes ++ copies
  match keptConnections c copies (bridgedTargets c nodes connections) connections with
  | .error e => (.error e, d)
  | .ok kept =>
    let s : Script := { d.script with nodes, connections := d.script.connections ++ kept }
    (.ok copies, { d with script := s }.choose (.nodes (copies.map Node.id)))

def duplicateSelection (c : Catalog) (offset : Float) (d : Desk) :
    Except GraphError (List Node) × Desk :=
  let d := d.refresh
  match d.editor.selection with
  | .nodes ids => d.duplicateNodes c offset (d.script.nodes.filter (isSelected (.nodes ids)))
  | _ => (.ok [], d)

def moveSelection (dx dy : Float) (d : Desk) : List Node × Desk :=
  let d := d.refresh
  let selected := isSelected d.editor.selection
  let move (n : Node) : Node := { n with position := n.position.shift dx dy }
  ((d.script.nodes.filter selected).map move,
    { d with script := { d.script with
        nodes := d.script.nodes.map fun n => if selected n then move n else n } })

end Desk

end NodeScript
