import NodeScript.Editor.Pointer

/-!
Deleting what is selected. An event node alone is kept while it feeds other nodes.
-/
namespace NodeScript

/-- What a delete removed, or why it was not done. -/
inductive Deletion where
  | removed (removal : Script.Removal)
  | nothingSelected
  | feeds (event : Text) (count : Nat)
  deriving DecidableEq, Repr

namespace Deletion

def reason? : Deletion → Option Text
  | removed _ => none
  | nothingSelected => some "Nothing selected"
  | feeds event count => some ("Event node " ++ event ++ " still feeds " ++ Decimal.natText count ++
      " node(s); select them too to delete the subgraph")

def removal : Deletion → Script.Removal
  | removed removal => removal
  | _ => {}

end Deletion

namespace Desk

def feeds (c : Catalog) (s : Script) (id : Text) : Nat :=
  if (s.node? id).any fun n => c.isEvent n.type then
    ((s.connectionsFrom id).filter fun k => k.toNode ≠ id).length
  else 0

def deleteNodes (c : Catalog) (ids : List Text) (d : Desk) : Except GraphError (Deletion × Desk) := do
  let (removal, s) ← d.script.deleteNodes c (ids.map some)
  pure (.removed removal, { d with script := s }.choose .nothing)

def deleteConnection (c : Catalog) (id : Text) (d : Desk) : Except GraphError (Deletion × Desk) := do
  let (connections, s) ← d.script.deleteConnection c id
  pure (.removed { connections }, { d with script := s }.choose .nothing)

def deletePresent (c : Catalog) (d : Desk) : Except GraphError (Deletion × Desk) :=
  match d.editor.selection with
  | .connection id => d.deleteConnection c id
  | .nodes [id] =>
    let count := feeds c d.script id
    if count = 0 then d.deleteNodes c [id] else .ok (.feeds id count, d)
  | .nodes ids => d.deleteNodes c ids
  | _ => .ok (.nothingSelected, d)

def deleteSelection (c : Catalog) (d : Desk) : Except GraphError Deletion × Desk :=
  let d := d.refresh
  match d.deletePresent c with
  | .ok (deletion, d) => (.ok deletion, d)
  | .error e => (.error e, d)

/-- A node is deleted by selecting it alone, under the same rule for events. -/
def deleteNode (c : Catalog) (id : Option Text) (d : Desk) : Except GraphError Deletion × Desk :=
  match d.clickNode id false with
  | .ok d => d.deleteSelection c
  | .error e => (.error e, d)

end Desk

end NodeScript
