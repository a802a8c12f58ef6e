import NodeScript.Proofs.Project.Edit
import NodeScript.Proofs.Script.Deletions

/-!
What duplicating a script makes: the same script under new ids. Nodes, parents and connections are
mapped by one renaming of the nodes, and what leads to no node is left out. The audit looks at nothing
that a renaming changes, so a clean script has a clean copy.
-/
namespace NodeScript

/-- The node under new ids. Its parent is renamed if it is a node of the ids, and else left out; the
parent without a name is always left out. -/
def Node.renamedAmong (rename : Text → Text) (ids : List Text) (n : Node) : Node :=
  { n with
    id := rename n.id
    parentId := n.parentId.bind fun parent =>
      if parent ≠ "" ∧ parent ∈ ids then some (rename parent) else none }

/-- The second script is the first one under new ids, with nothing selected. -/
structure Script.Duplicate (s copy : Script) (rename : Text → Text) (ids more : IdSupply) : Prop where
  injective : ∀ a ∈ s.nodes.map Node.id, ∀ b ∈ s.nodes.map Node.id, rename a = rename b → a = b
  nodes : copy.nodes = s.nodes.map (·.renamedAmong rename (s.nodes.map Node.id))
  links : copy.connections.map Connection.link =
    (s.connections.filter (·.within (s.nodes.map Node.id))).map (·.linkUnder rename)
  new : IdSupply.New ids more
    (copy.nodes.map Node.id ++ copy.connections.map Connection.id ++ [copy.id])
  apart : ∀ id ∈ copy.nodes.map Node.id ++ copy.connections.map Connection.id,
    id ∉ s.nodes.map Node.id ++ s.connections.map Connection.id
  vars : copy.vars = s.vars
  description : copy.description = s.description
  unselected : copy.selectedNodes = [] ∧ copy.selectedConnection = none

namespace Project

variable {c : Catalog} {copies : List (Node × Text)} {ids : IdSupply} {source : Script}

theorem copiedNode_eq (items : copies.map Prod.fst = source.nodes) (n : Node) : copiedNode copies n =
    n.renamedAmong (fun id => (copyOf? copies id).getD id) (source.nodes.map Node.id) := by
  have parent (id : Text) : (if id = "" then none else copyOf? copies id) =
      if id ≠ "" ∧ id ∈ source.nodes.map Node.id then some ((copyOf? copies id).getD id) else none := by
    simp only [← copyOf?_isSome items]
    cases copyOf? copies id <;> by_cases unnamed : id = "" <;> simp [unnamed]
  simp only [copiedNode, Node.renamedAmong, parent]

theorem copied_clean {copy : Script} (items : copies.map Prod.fst = source.nodes)
    (newNodes : (copies.map Prod.snd).Nodup)
    (newLinks : (copy.connections.map Connection.id).Nodup)
    (nodes : copy.nodes = source.nodes.map (copiedNode copies))
    (copied : ∀ link ∈ copy.connections, ∃ k ∈ source.connections, IsCopy copies k link)
    (linked : ∀ k ∈ source.connections, ∀ a b, copyOf? copies k.fromNode = some a →
      copyOf? copies k.toNode = some b → (a, b) ∈ edges copy.connections)
    (inputs : (source.connections.map Connection.input).Nodup →
      (copy.connections.map Connection.input).Nodup)
    (clean : source.Clean c) : copy.Clean c where
  nodes := by
    rw [nodes, copied_ids items clean.nodes fun _ => rfl]
    exact newNodes
  types := by
    rw [nodes]
    exact List.forall_mem_map.mpr clean.types
  connections := newLinks
  wired := by
    intro link member
    obtain ⟨k, present, isCopy⟩ := copied link member
    obtain ⟨first, second, fromPort, toPort⟩ := copiedLink?_eq_some.mp isCopy
    obtain ⟨from', to', has, has', out, into, allowed⟩ := clean.wired k present
    have ends : ∀ k ∈ source.connections,
        k.fromNode ∈ source.nodes.map Node.id ∧ k.toNode ∈ source.nodes.map Node.id := by
      intro k member
      obtain ⟨_, _, from?, to?, _⟩ := clean.wired k member
      exact ⟨from?.named, to?.named⟩
    have fed (bridged : k.fromNode ∈ source.bridged c) : link.fromNode ∈ copy.bridged c := by
      rw [Script.bridged, nodes]
      exact bridged_copy items clean.nodes ends newNodes linked first bridged
    rw [fromPort] at out
    rw [toPort] at into
    refine ⟨from', to', ?_, ?_, out, into, crossingAllowed_of_fed fed allowed⟩
    · rw [nodes]
      exact hasTemplate_copy has (fun _ => rfl) (fun _ => rfl) first
    · rw [nodes]
      exact hasTemplate_copy has' (fun _ => rfl) (fun _ => rfl) second
  inputs := inputs clean.inputs

theorem copyScript_clean (name : Option Text) (clean : source.Clean c) :
    (copyScript name source ids).1.Clean c := by
  have newNodes := (IdSupply.drawFor_new ids source.nodes).distinct
  refine copied_clean (IdSupply.drawFor_items ids source.nodes) newNodes ?_ rfl ?_ ?_ ?_ clean
  · exact (copiedConnections_new _ _ _).distinct
  · exact fun link member => mem_copiedConnections member
  · exact fun k member a b first second => copiedConnections_of_mem member first second
  · exact copiedConnections_inputs newNodes

theorem copyScript_duplicate (name : Option Text) (distinct : (source.nodes.map Node.id).Nodup)
    (spent : ∀ id ∈ source.nodes.map Node.id ++ source.connections.map Connection.id, ids.Spent id) :
    ∃ rename, source.Duplicate (copyScript name source ids).1 rename ids (copyScript name source ids).2 := by
  have items := IdSupply.drawFor_items ids source.nodes
  have newNodes := IdSupply.drawFor_new ids source.nodes
  have newLinks := copiedConnections_new (ids.drawFor source.nodes).1 source.connections
    (ids.drawFor source.nodes).2
  have named : (source.nodes.map (copiedNode (ids.drawFor source.nodes).1)).map Node.id =
      (ids.drawFor source.nodes).1.map Prod.snd := copied_ids items distinct fun _ => rfl
  have new := newNodes.then newLinks
  refine ⟨fun id => (copyOf? (ids.drawFor source.nodes).1 id).getD id, ?_, ?_, ?_, ?_, ?_, rfl, rfl, rfl, rfl⟩
  · intro a first b second same
    obtain ⟨new, found⟩ := Option.isSome_iff_exists.mp ((copyOf?_isSome items).mpr first)
    obtain ⟨new', found'⟩ := Option.isSome_iff_exists.mp ((copyOf?_isSome items).mpr second)
    simp only [found, found', Option.getD_some] at same
    exact copyOf?_injective newNodes.distinct found (same ▸ found')
  · exact List.map_congr_left fun n _ => copiedNode_eq items n
  · exact (copiedConnections_links _ _ _).trans (copiedLinks_eq items _)
  · have last := new.then (IdSupply.new_draw _)
    rw [← named] at last
    exact last
  · have apart := new.not_mem spent
    rw [← named] at apart
    exact apart

/-- Duplicating a script adds a duplicate of it to the project, clean if the script is, and changes
nothing else. -/
theorem duplicateScript_duplicates (c : Catalog) (p : Project) (name : Option Text) (ids : IdSupply)
    {id : Text} {source : Script} (found : p.script? id = some source)
    (distinct : (source.nodes.map Node.id).Nodup)
    (spent : ∀ id ∈ source.nodes.map Node.id ++ source.connections.map Connection.id, ids.Spent id) :
    ∃ copy rename more,
      p.duplicateScript (some id) name ids =
        .ok (copy, { p with scripts := p.scripts ++ [copy] }, more) ∧
      source.Duplicate copy rename ids more ∧ copy.name = copyName name source.name ∧
      (source.audit c = [] → copy.audit c = []) := by
  have required : p.requireScript (some id) = .ok source := by simp [requireScript, found]
  obtain ⟨rename, duplicate⟩ := copyScript_duplicate name distinct spent
  refine ⟨_, rename, _, duplicateScript_ok name ids required, duplicate, rfl, fun clean => ?_⟩
  exact Script.audit_eq_nil.mpr (copyScript_clean name (Script.audit_eq_nil.mp clean))

/-- The audit of the reply finds nothing, and neither does that of its copy. -/
theorem duplicateScript_duplicates_replied :
    let p : Project := { scripts := [replied], currentScript := some "replied" }
    p.script? "replied" = some replied ∧ (replied.nodes.map Node.id).Nodup ∧
      (∀ id ∈ replied.nodes.map Node.id ++ replied.connections.map Connection.id,
        ({} : IdSupply).Spent id) ∧
      replied.audit replyCatalog = [] ∧
      ∃ copy rename more,
        p.duplicateScript (some "replied") none {} =
          .ok (copy, { p with scripts := p.scripts ++ [copy] }, more) ∧
        replied.Duplicate copy rename {} more ∧ copy.name = "Replied (copy)" ∧
        copy.audit replyCatalog = [] := by
  intro p
  have found : p.script? "replied" = some replied := by decide
  have distinct : (replied.nodes.map Node.id).Nodup := by decide
  have spent : ∀ id ∈ replied.nodes.map Node.id ++ replied.connections.map Connection.id,
      ({} : IdSupply).Spent id := IdSupply.spent_of_head (by decide)
  have clean : replied.audit replyCatalog = [] := by decide +kernel
  obtain ⟨copy, rename, more, made, duplicate, named, audited⟩ :=
    duplicateScript_duplicates replyCatalog p none {} found distinct spent
  exact ⟨found, distinct, spent, clean, copy, rename, more, made, duplicate, named, audited clean⟩

/-- A group without a name and a node in it. -/
def nameless : Script :=
  { id := "nameless"
    name := "Nameless"
    nodes := [{ id := "", type := "event" }, { id := "log", type := "log", parentId := some "" }] }

/-- The parent is a node of the script and has a copy, but the copy of the node in it has no parent. -/
theorem duplicateScript_nameless :
    let p : Project := { scripts := [nameless] }
    p.script? "nameless" = some nameless ∧ (nameless.nodes.map Node.id).Nodup ∧
      (∀ id ∈ nameless.nodes.map Node.id ++ nameless.connections.map Connection.id,
        ({} : IdSupply).Spent id) ∧
      (∀ n ∈ nameless.nodes, ∀ parent, n.parentId = some parent → parent ∈ nameless.nodes.map Node.id) ∧
      ∃ copy q more, p.duplicateScript (some "nameless") none {} = .ok (copy, q, more) ∧
        ¬∃ rename : Text → Text, copy.nodes.map Node.parentId =
          nameless.nodes.map fun n => n.parentId.map rename := by
  refine ⟨by decide, by decide, IdSupply.spent_of_head (by decide), by decide, _, _, _, rfl, ?_⟩
  rintro ⟨rename, same⟩
  cases same

end Project

end NodeScript
