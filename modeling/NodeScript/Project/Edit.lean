import NodeScript.Script.Edit

/-!
Changes to a project: scripts are made, renamed, copied, deleted and chosen. A copy has fresh ids
for its nodes and connections, and its connections join the copies of the nodes they joined.
-/
namespace NodeScript

/-- The copy of a node is known by the last id drawn for the node's own. -/
def copyOf? (copies : List (Node × Text)) (id : Text) : Option Text :=
  (copies.reverse.find? fun p => p.1.id = id).map (·.2)

def copiedLink? (copies : List (Node × Text)) (k : Connection) : Option Link := do
  let fromNode ← copyOf? copies k.fromNode
  let toNode ← copyOf? copies k.toNode
  pure { fromNode, fromPort := k.fromPort, toNode, toPort := k.toPort }

def copiedConnections (copies : List (Node × Text)) (connections : List Connection)
    (ids : IdSupply) : List Connection × IdSupply :=
  let (drawn, ids) := ids.drawFor (connections.filterMap (copiedLink? copies))
  (drawn.map fun p => p.1.connection p.2, ids)

namespace Project

def requireScript (p : Project) (id : Option Text) : Except GraphError Script :=
  match id.bind p.script? with
  | some s => .ok s
  | none => .error (.scriptNotFound id)

def createScript (name : Text) (description : Option Text) (p : Project) (ids : IdSupply) :
    Script × Project × IdSupply :=
  let (id, ids) := ids.draw
  let s : Script := { id, name, description }
  (s, { scripts := p.scripts ++ [s], currentScript := p.currentScript.or (some id) }, ids)

def renameScript (id : Option Text) (name : Text) (p : Project) :
    Except EditError (Script × Project) := do
  let s ← (p.requireScript id).mapError .graph
  let s ← s.setName name
  pure (s, p.replaceScript s.id s)

def copyName (name : Option Text) (source : Text) : Text :=
  match name with
  | some given => if given = "" then source ++ " (copy)" else given
  | none => source ++ " (copy)"

/-- A parent that is no node of the script is left out. -/
def copiedNode (copies : List (Node × Text)) (n : Node) : Node :=
  { n with
    id := (copyOf? copies n.id).getD n.id
    parentId := n.parentId.bind fun parent => if parent = "" then none else copyOf? copies parent }

def copyScript (name : Option Text) (source : Script) (ids : IdSupply) : Script × IdSupply :=
  let (copies, ids) := ids.drawFor source.nodes
  let (connections, ids) := copiedConnections copies source.connections ids
  let (id, ids) := ids.draw
  ({ id, name := copyName name source.name, description := source.description,
     nodes := source.nodes.map (copiedNode copies), connections, vars := source.vars },
    ids)

def duplicateScript (id name : Option Text) (p : Project) (ids : IdSupply) :
    Except GraphError (Script × Project × IdSupply) := do
  let source ← p.requireScript id
  let (copy, ids) := copyScript name source ids
  pure (copy, { p with scripts := p.scripts ++ [copy] }, ids)

def deleteScript (id : Option Text) (p : Project) : Except GraphError (Script × Project) := do
  let s ← p.requireScript id
  pure (s, { scripts := p.scripts.filter (·.id ≠ s.id),
             currentScript := if p.currentScript = some s.id then none else p.currentScript })

def setCurrentScript (id : Option Text) (p : Project) : Except GraphError (Option Script × Project) :=
  match id with
  | none => .ok (none, { p with currentScript := none })
  | some id => do
    let s ← p.requireScript id
    pure (some s, { p with currentScript := some s.id })

end Project

end NodeScript
