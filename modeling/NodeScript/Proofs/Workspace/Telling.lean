import NodeScript.Proofs.Editor.Renewal
import NodeScript.Proofs.Repetitions
import NodeScript.Proofs.Script.Remainder
import NodeScript.Proofs.Workspace.Step

namespace NodeScript

/-- The names told are those of the one list that are not in the other, each once. -/
def Difference (told : List (Option Text)) (more fewer : List Text) : Prop :=
  ∃ ids : List Text, told = ids.map some ∧ ids.Nodup ∧ ∀ id, id ∈ ids ↔ id ∈ more ∧ id ∉ fewer

namespace Difference

variable {more fewer old : List Text}

theorem of_subset (sub : more ⊆ fewer) : Difference [] more fewer := by
  refine ⟨[], rfl, List.nodup_nil, fun id => ?_⟩
  simpa using @sub id

theorem appended {ids last : IdSupply} {new : List Text} (drawn : IdSupply.New ids last new)
    (spent : ∀ id ∈ old, ids.Spent id) : Difference (new.map some) (old ++ new) old := by
  refine ⟨new, rfl, drawn.distinct, fun id => ?_⟩
  have apart : id ∈ new → id ∉ old := fun member there => drawn.fresh id member (spent id there)
  rw [List.mem_append]
  tauto

end Difference

/-- The kinds that tell that a node or a connection came or went. -/
def EventKind.isStructural : EventKind → Bool
  | .nodeAdded | .nodeRemoved | .nodeDuplicated | .connectionAdded | .connectionRemoved => true
  | _ => false

def toldNodes (kind : EventKind) (announcements : List Announcement) : List (Option Text) :=
  (announcements.filter (·.kind = kind)).map (·.details.node)

def toldConnections (kind : EventKind) (announcements : List Announcement) : List (Option Text) :=
  (announcements.filter (·.kind = kind)).map (·.details.connection)

namespace Announcement

/-- What an announcement of copies lists. -/
def copies (a : Announcement) : List (Option Text) :=
  match a.details.data.bind (·.get? "node_ids") with
  | some (.arr ids) => ids.map fun id => match id with | .str text => some text | _ => none
  | _ => []

end Announcement

def toldCopies (announcements : List Announcement) : List (Option Text) :=
  (announcements.filter (·.kind = .nodeDuplicated)).flatMap Announcement.copies

/-- The announcements are about the script, and tell what went from it and what came to it, but for
the connections that come with copies. -/
structure Tells (copying : Bool) (announcements : List Announcement) (s t : Script) : Prop where
  id : t.id = s.id
  script : ∀ a ∈ announcements, a.details.script = some s.id
  nodesGone : Difference (toldNodes .nodeRemoved announcements)
    (s.nodes.map Node.id) (t.nodes.map Node.id)
  nodesCome : Difference (toldNodes .nodeAdded announcements ++ toldCopies announcements)
    (t.nodes.map Node.id) (s.nodes.map Node.id)
  connectionsGone : Difference (toldConnections .connectionRemoved announcements)
    (s.connections.map Connection.id) (t.connections.map Connection.id)
  connectionsCome : copying = false → Difference (toldConnections .connectionAdded announcements)
    (t.connections.map Connection.id) (s.connections.map Connection.id)

def refusal (script reason : Text) : Announcement :=
  .ofScript script .deleteRefused { data := some [("reason", .str reason)] }

/-- The announcements account for an operation with its answer: they tell what it changed, and a
refused delete, which changes neither nodes nor connections. -/
structure Accounts (copying : Bool) (answer : Except EditError (Option Deletion))
    (announcements : List Announcement) (s t : Script) : Prop where
  tells : Tells copying announcements s t
  idle : answer = .ok (some .nothingSelected) →
    announcements = [refusal s.id "Nothing selected"] ∧ t.nodes = s.nodes ∧ t.connections = s.connections
  feeding : ∀ event count, answer = .ok (some (.feeds event count)) →
    announcements = [refusal s.id ("Event node " ++ event ++ " still feeds " ++ Decimal.natText count ++
      " node(s); select them too to delete the subgraph")] ∧
      t.nodes = s.nodes ∧ t.connections = s.connections

section

variable {copying : Bool} {announcements : List Announcement} {s t u : Script}

/-- The announcements tell of nothing that came or went. -/
def Quiet (announcements : List Announcement) : Prop :=
  ∀ a ∈ announcements, a.kind.isStructural = false

theorem toldNodes_append (kind : EventKind) (first more : List Announcement) :
    toldNodes kind (first ++ more) = toldNodes kind first ++ toldNodes kind more := by
  simp [toldNodes]

theorem toldConnections_append (kind : EventKind) (first more : List Announcement) :
    toldConnections kind (first ++ more) = toldConnections kind first ++ toldConnections kind more := by
  simp [toldConnections]

theorem toldCopies_append (first more : List Announcement) :
    toldCopies (first ++ more) = toldCopies first ++ toldCopies more := by
  simp [toldCopies]

theorem Quiet.filter (quiet : Quiet announcements) {kind : EventKind} (structural : kind.isStructural = true) :
    announcements.filter (·.kind = kind) = [] := by
  refine List.filter_eq_nil_iff.mpr fun a member same => ?_
  rw [← of_decide_eq_true same, quiet a member] at structural
  cases structural

theorem Quiet.nothing (quiet : Quiet announcements) :
    toldNodes .nodeRemoved announcements = [] ∧ toldNodes .nodeAdded announcements = [] ∧
      toldCopies announcements = [] ∧ toldConnections .connectionRemoved announcements = [] ∧
      toldConnections .connectionAdded announcements = [] := by
  simp only [toldNodes, toldCopies, toldConnections]
  rw [quiet.filter rfl, quiet.filter rfl, quiet.filter rfl, quiet.filter rfl, quiet.filter rfl]
  simp

theorem Tells.beside {more : List Announcement} (tells : Tells copying announcements s t)
    (script : ∀ a ∈ more, a.details.script = some s.id) (quiet : Quiet more) :
    Tells copying (announcements ++ more) s t := by
  obtain ⟨removed, added, copied, removed', added'⟩ := quiet.nothing
  refine ⟨tells.id, ?_, ?_, ?_, ?_, fun single => ?_⟩
  · exact fun a member => (List.mem_append.mp member).elim (tells.script a) (script a)
  · rw [toldNodes_append, removed, List.append_nil]
    exact tells.nodesGone
  · rw [toldNodes_append, toldCopies_append, added, copied, List.append_nil, List.append_nil]
    exact tells.nodesCome
  · rw [toldConnections_append, removed', List.append_nil]
    exact tells.connectionsGone
  · rw [toldConnections_append, added', List.append_nil]
    exact tells.connectionsCome single

theorem Tells.nothing (id : t.id = s.id) (nodes : t.nodes.map Node.id = s.nodes.map Node.id)
    (connections : t.connections.map Connection.id = s.connections.map Connection.id) :
    Tells copying [] s t := by
  have same (ids : List Text) : Difference [] ids ids := .of_subset (List.Subset.refl ids)
  refine ⟨id, by simp, ?_, ?_, ?_, fun _ => ?_⟩
  · rw [nodes]
    exact same _
  · rw [nodes]
    exact same _
  · rw [connections]
    exact same _
  · rw [connections]
    exact same _

theorem Tells.aside {script : Text} {kind : EventKind} {details : EventDetails}
    (tells : Tells copying announcements s t) (here : script = s.id) (quiet : kind.isStructural = false) :
    Tells copying (announcements ++ [.ofScript script kind details]) s t :=
  tells.beside (List.forall_mem_singleton.mpr (congrArg some here)) (List.forall_mem_singleton.mpr quiet)

theorem Tells.noted {script : Text} {kind : EventKind} {details : EventDetails} (id : t.id = s.id)
    (nodes : t.nodes.map Node.id = s.nodes.map Node.id)
    (connections : t.connections.map Connection.id = s.connections.map Connection.id)
    (here : script = s.id) (quiet : kind.isStructural = false) :
    Tells copying [.ofScript script kind details] s t :=
  (Tells.nothing id nodes connections).aside here quiet

theorem Tells.rejection {script : Text} (tells : Tells copying announcements s t) (here : script = s.id)
    (e : GraphError) : Tells copying (announcements ++ Workspace.rejection script e) s t := by
  unfold Workspace.rejection
  cases e.diagnostic.toOption with
  | none => simpa using tells
  | some d => exact tells.aside here rfl

theorem Tells.accounts {α : Type} (tells : Tells copying announcements s t) (answer : Except EditError α) :
    Accounts copying (answer.map fun _ => none) announcements s t := by
  refine ⟨tells, fun answered => ?_, fun event count answered => ?_⟩ <;>
    cases answer <;> cases answered

theorem Tells.congr (tells : Tells copying announcements s t) (id : s.id = u.id)
    (nodes : s.nodes = u.nodes) (connections : s.connections = u.connections) :
    Tells copying announcements u t := by
  constructor
  · exact tells.id.trans id
  · exact fun a member => id ▸ tells.script a member
  · exact nodes ▸ tells.nodesGone
  · exact nodes ▸ tells.nodesCome
  · exact connections ▸ tells.connectionsGone
  · exact fun single => connections ▸ tells.connectionsCome single

theorem Accounts.congr {answer : Except EditError (Option Deletion)}
    (accounts : Accounts copying answer announcements s t) (id : s.id = u.id)
    (nodes : s.nodes = u.nodes) (connections : s.connections = u.connections) :
    Accounts copying answer announcements u t := by
  refine ⟨accounts.tells.congr id nodes connections, fun answered => ?_, fun event count answered => ?_⟩ <;>
    rw [← id, ← nodes, ← connections]
  · exact accounts.idle answered
  · exact accounts.feeding event count answered

theorem Tells.nodeAdded {ids last : IdSupply} {n : Node} {data : Option Members}
    (spent : ∀ id ∈ s.nodes.map Node.id, ids.Spent id) (new : IdSupply.New ids last [n.id])
    (id : t.id = s.id) (nodes : t.nodes = s.nodes ++ [n]) (connections : t.connections = s.connections) :
    Tells copying [.ofScript s.id .nodeAdded { node := some n.id, data }] s t := by
  have behind : t.nodes.map Node.id = s.nodes.map Node.id ++ [n.id] := by
    rw [nodes, List.map_append]
    rfl
  refine ⟨id, by simp [Announcement.ofScript], ?_, ?_, ?_, fun _ => ?_⟩
  · rw [behind]
    exact Difference.of_subset (List.subset_append_left _ _)
  · rw [behind]
    exact Difference.appended new spent
  · rw [connections]
    exact Difference.of_subset (List.Subset.refl _)
  · rw [connections]
    exact Difference.of_subset (List.Subset.refl _)

theorem Tells.connectionAdded {ids last : IdSupply} {k : Connection}
    (spent : ∀ id ∈ s.connections.map Connection.id, ids.Spent id) (new : IdSupply.New ids last [k.id])
    (id : t.id = s.id) (nodes : t.nodes = s.nodes) (connections : t.connections = s.connections ++ [k]) :
    Tells copying [.ofScript s.id .connectionAdded { connection := some k.id }] s t := by
  have behind : t.connections.map Connection.id = s.connections.map Connection.id ++ [k.id] := by
    rw [connections, List.map_append]
    rfl
  refine ⟨id, by simp [Announcement.ofScript], ?_, ?_, ?_, fun _ => ?_⟩
  · rw [nodes]
    exact Difference.of_subset (List.Subset.refl _)
  · rw [nodes]
    exact Difference.of_subset (List.Subset.refl _)
  · rw [behind]
    exact Difference.of_subset (List.subset_append_left _ _)
  · rw [behind]
    exact Difference.appended new spent

theorem Tells.copied {ids last : IdSupply} {copies : List Node}
    (spent : ∀ id ∈ s.nodes.map Node.id, ids.Spent id)
    (new : IdSupply.New ids last (copies.map Node.id)) (id : t.id = s.id)
    (nodes : t.nodes = s.nodes ++ copies)
    (connections : s.connections.map Connection.id ⊆ t.connections.map Connection.id) :
    Tells true [.ofScript s.id .nodeDuplicated
      { data := some [("node_ids", Json.ofTexts (copies.map Node.id))] }] s t := by
  have behind : t.nodes.map Node.id = s.nodes.map Node.id ++ copies.map Node.id := by
    rw [nodes, List.map_append]
  have listed : toldCopies [.ofScript s.id .nodeDuplicated
      { data := some [("node_ids", Json.ofTexts (copies.map Node.id))] }] =
      (copies.map Node.id).map some := by
    simp [toldCopies, Announcement.copies, Announcement.ofScript, Members.get?, Json.ofTexts,
      Function.comp_def]
  refine ⟨id, by simp [Announcement.ofScript], ?_, ?_, ?_, nofun⟩
  · rw [behind]
    exact Difference.of_subset (List.subset_append_left _ _)
  · rw [listed, behind]
    exact Difference.appended new spent
  · exact Difference.of_subset connections

/-- What a removal takes is what goes, and nothing comes. -/
structure Removes (removal : Script.Removal) (s t : Script) : Prop where
  id : t.id = s.id
  nodes : Difference (removal.nodes.map some) (s.nodes.map Node.id) (t.nodes.map Node.id)
  connections : Difference (removal.connections.map some)
    (s.connections.map Connection.id) (t.connections.map Connection.id)
  noNode : t.nodes.map Node.id ⊆ s.nodes.map Node.id
  noConnection : t.connections.map Connection.id ⊆ s.connections.map Connection.id

theorem Removes.recordSelection {removal : Script.Removal} (removes : Removes removal s t) (selection : Selection) :
    Removes removal s (t.recordSelection selection) :=
  ⟨removes.id, removes.nodes, removes.connections, removes.noNode, removes.noConnection⟩

theorem Removes.tells {removal : Script.Removal} (removes : Removes removal s t) :
    Tells copying (removal.nodes.map (fun id => .ofScript s.id .nodeRemoved { node := some id }) ++
      removal.connections.map fun id => .ofScript s.id .connectionRemoved { connection := some id })
      s t := by
  refine ⟨removes.id, ?_, ?_, ?_, ?_, fun _ => ?_⟩
  · intro a member
    rcases List.mem_append.mp member with told | told <;>
    · obtain ⟨id, _, rfl⟩ := List.mem_map.mp told
      rfl
  · simpa [toldNodes, Announcement.ofScript, List.filter_map, Function.comp_def] using removes.nodes
  · simpa [toldNodes, toldCopies, Announcement.ofScript, List.filter_map, Function.comp_def] using
      Difference.of_subset removes.noNode
  · simpa [toldConnections, Announcement.ofScript, List.filter_map, Function.comp_def] using
      removes.connections
  · simpa [toldConnections, Announcement.ofScript, List.filter_map, Function.comp_def] using
      Difference.of_subset removes.noConnection

end

end NodeScript
