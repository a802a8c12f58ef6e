import NodeScript.Catalog
import NodeScript.Closure
import NodeScript.Script

/-!
Crossings between the contexts. A node of the target context is bridged if a bridge feeds it,
directly or through other target nodes; its outputs may then return to the host. Any other
connection between different contexts needs a bridge at one of its ends.
-/
namespace NodeScript

namespace Catalog

def nodeTemplate? (c : Catalog) (n : Node) : Option Template := c.find? n.type

def carriesReply (c : Catalog) (n : Node) : Bool :=
  (c.nodeTemplate? n).any fun t => t.context = .target && !t.bridge

end Catalog

def edges (connections : List Connection) : List (Text × Text) := connections.map (·.edge)

def bridges (c : Catalog) (nodes : List Node) : List Text :=
  (nodes.filter fun n => c.isBridge n.type).map (·.id)

def carries (c : Catalog) (nodes : List Node) (id : Text) : Bool :=
  (lastNode? nodes id).any c.carriesReply

def bridgedTargets (c : Catalog) (nodes : List Node) (connections : List Connection) : List Text :=
  let fed := reach (edges connections) (carries c nodes) (bridges c nodes)
  (((edges connections).filter fun e => decide (e.1 ∈ fed) && carries c nodes e.2).map (·.2)).eraseDups

def crossingAllowed (fromNode : Text) (source target : Template) (bridged : List Text) : Bool :=
  source.context = target.context || source.bridge || target.bridge ||
    (source.context = .target && bridged.contains fromNode)

def breaksContext (c : Catalog) (nodes : List Node) (bridged : List Text) (k : Connection) : Bool :=
  match lastNode? nodes k.fromNode, lastNode? nodes k.toNode with
  | some fromNode, some toNode =>
    match c.nodeTemplate? fromNode, c.nodeTemplate? toNode with
    | some source, some target => !crossingAllowed fromNode.id source target bridged
    | _, _ => false
  | _, _ => false

def illegal (c : Catalog) (nodes : List Node) (live : List Connection) : List Connection :=
  live.filter (breaksContext c nodes (bridgedTargets c nodes live))

def withoutIds (ids : List Text) (live : List Connection) : List Connection :=
  live.filter fun k => !ids.contains k.id

theorem length_withoutIds_lt {live : List Connection} {ids : List Text} {k : Connection}
    (member : k ∈ live) (named : k.id ∈ ids) : (withoutIds ids live).length < live.length :=
  List.length_filter_lt_length_iff_exists.2 ⟨k, member, by simpa using named⟩

/-- Ids of the connections that have to go until the others keep the context rule, each sweep
after the one before. -/
def stranded (c : Catalog) (nodes : List Node) (live : List Connection) : List Text :=
  let found := (illegal c nodes live).map (·.id)
  if _some : found = [] then []
  else found ++ stranded c nodes (withoutIds found live)
termination_by live.length
decreasing_by
  obtain ⟨id, named⟩ := List.exists_mem_of_ne_nil _ _some
  obtain ⟨k, kept, rfl⟩ := List.mem_map.1 named
  exact length_withoutIds_lt (List.mem_filter.1 kept).1 named

end NodeScript
