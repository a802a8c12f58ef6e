import NodeScript.Proofs.Bridging
import NodeScript.Script.Edit

/-!
The rules of a script. A lawful script has distinct ids, known types, connections from outputs to
inputs whose types meet, and at most one connection an input; a well-formed one also keeps the
context rule and names only its own nodes as parents. The three ways in which a script changes,
the nodes being changed in place, extended or cut down, keep all of that.
-/
namespace NodeScript

/-- A node of the id has the template. -/
def HasTemplate (c : Catalog) (nodes : List Node) (id : Text) (t : Template) : Prop :=
  ∃ n ∈ nodes, n.id = id ∧ c.find? n.type = some t

/-- Values of the two types fit, or a conversion at either end takes them; flow meets only flow. -/
def TypesMeet (source target : Template) (fromType toType : PortType) : Prop :=
  fromType.fits toType = true ∨
    ((source.category = .conversion ∨ target.category = .conversion) ∧
      fromType ≠ .flow ∧ toType ≠ .flow)

/-- The connection leads from an output of a node to an input of one that is no event. -/
def Joins (c : Catalog) (nodes : List Node) (k : Connection) : Prop :=
  ∃ source target output input,
    HasTemplate c nodes k.fromNode source ∧ HasTemplate c nodes k.toNode target ∧
    source.output? k.fromPort = some output ∧ target.input? k.toPort = some input ∧
    TypesMeet source target output.type input.type ∧ target.isEvent = false

namespace Connection

def input (k : Connection) : Text × Text := (k.toNode, k.toPort)

end Connection

namespace Script

structure Lawful (c : Catalog) (s : Script) : Prop where
  nodes : (s.nodes.map Node.id).Nodup
  connections : (s.connections.map Connection.id).Nodup
  types : ∀ n ∈ s.nodes, c.knows n.type = true
  joined : ∀ k ∈ s.connections, Joins c s.nodes k
  inputs : (s.connections.map Connection.input).Nodup

structure WellFormed (c : Catalog) (s : Script) : Prop extends Lawful c s where
  crossings : ∀ k ∈ s.connections, ∀ source target, HasTemplate c s.nodes k.fromNode source →
    HasTemplate c s.nodes k.toNode target → crossingAllowed k.fromNode source target (s.bridged c) = true
  parents : ∀ n ∈ s.nodes, ∀ parent, n.parentId = some parent → parent ∈ s.nodes.map Node.id

end Script

section

variable {c : Catalog} {nodes more : List Node} {k : Connection}

theorem hasTemplate_iff {id : Text} {t : Template} (distinct : (nodes.map Node.id).Nodup) :
    HasTemplate c nodes id t ↔ ∃ n, lastNode? nodes id = some n ∧ c.find? n.type = some t := by
  simp only [HasTemplate, lastNode?_iff distinct, and_assoc]

theorem HasTemplate.unique {id : Text} {t u : Template} (distinct : (nodes.map Node.id).Nodup)
    (one : HasTemplate c nodes id t) (other : HasTemplate c nodes id u) : t = u := by
  rcases (hasTemplate_iff distinct).mp one with ⟨n, found, known⟩
  rcases (hasTemplate_iff distinct).mp other with ⟨m, found', known'⟩
  cases found.symm.trans found'
  exact Option.some.inj (known.symm.trans known')

theorem HasTemplate.named {id : Text} {t : Template} (has : HasTemplate c nodes id t) :
    id ∈ nodes.map Node.id := by
  rcases has with ⟨n, member, rfl, _⟩
  exact List.mem_map_of_mem member

theorem HasTemplate.mono {id : Text} {t : Template} (sub : nodes ⊆ more)
    (has : HasTemplate c nodes id t) : HasTemplate c more id t := by
  rcases has with ⟨n, member, named, known⟩
  exact ⟨n, sub member, named, known⟩

theorem hasTemplate_shape {id : Text} {t : Template} :
    HasTemplate c nodes id t ↔ ∃ type, (id, type) ∈ shape nodes ∧ c.find? type = some t := by
  constructor
  · rintro ⟨n, member, rfl, known⟩
    exact ⟨n.type, List.mem_map_of_mem member, known⟩
  · rintro ⟨type, member, known⟩
    rcases List.mem_map.mp member with ⟨n, present, same⟩
    rcases Prod.mk.inj same with ⟨rfl, rfl⟩
    exact ⟨n, present, rfl, known⟩

theorem Joins.lift (rename : Text → Text) {link : Connection}
    (has : ∀ id t, id = k.fromNode ∨ id = k.toNode → HasTemplate c nodes id t →
      HasTemplate c more (rename id) t)
    (ends : link.fromNode = rename k.fromNode ∧ link.toNode = rename k.toNode)
    (ports : link.fromPort = k.fromPort ∧ link.toPort = k.toPort)
    (joins : Joins c nodes k) : Joins c more link := by
  rcases joins with ⟨source, target, output, input, from?, to?, out, into, meet, noEvent⟩
  refine ⟨source, target, output, input, ?_, ?_, ports.1 ▸ out, ports.2 ▸ into, meet, noEvent⟩
  · rw [ends.1]
    exact has _ _ (Or.inl rfl) from?
  · rw [ends.2]
    exact has _ _ (Or.inr rfl) to?

theorem Joins.of_shape (same : shape nodes = shape more) (joins : Joins c nodes k) :
    Joins c more k := by
  refine joins.lift (fun id => id) ?_ ⟨rfl, rfl⟩ ⟨rfl, rfl⟩
  intro id t _ has
  rw [hasTemplate_shape, ← same, ← hasTemplate_shape]
  exact has

theorem Joins.mono (sub : nodes ⊆ more) (joins : Joins c nodes k) : Joins c more k :=
  joins.lift (fun id => id) (fun _ _ _ has => has.mono sub) ⟨rfl, rfl⟩ ⟨rfl, rfl⟩

theorem carries_iff_template {id : Text} (distinct : (nodes.map Node.id).Nodup) :
    carries c nodes id = true ↔
      ∃ t, HasTemplate c nodes id t ∧ t.context = .target ∧ t.bridge = false := by
  rw [carries_iff]
  constructor
  · rintro ⟨n, t, found, known, context, plain⟩
    exact ⟨t, (hasTemplate_iff distinct).mpr ⟨n, found, known⟩, context, plain⟩
  · rintro ⟨t, has, context, plain⟩
    rcases (hasTemplate_iff distinct).mp has with ⟨n, found, known⟩
    exact ⟨n, t, found, known, context, plain⟩

theorem mem_bridges_iff_template {id : Text} :
    id ∈ bridges c nodes ↔ ∃ t, HasTemplate c nodes id t ∧ t.bridge = true := by
  simp only [mem_bridges, Catalog.isBridge, Option.any_eq_true]
  constructor
  · rintro ⟨n, member, ⟨t, known, bridge⟩, named⟩
    exact ⟨t, ⟨n, member, named, known⟩, bridge⟩
  · rintro ⟨t, ⟨n, member, named, known⟩, bridge⟩
    exact ⟨n, member, ⟨t, known, bridge⟩, named⟩

theorem breaksContext_eq_false {bridged : List Text} (distinct : (nodes.map Node.id).Nodup) :
    breaksContext c nodes bridged k = false ↔
      ∀ source target, HasTemplate c nodes k.fromNode source → HasTemplate c nodes k.toNode target →
        crossingAllowed k.fromNode source target bridged = true := by
  rw [Bool.eq_false_iff, ne_eq, breaksContext_iff]
  constructor
  · intro kept source target from? to?
    rcases (hasTemplate_iff distinct).mp from? with ⟨fromNode, first, known⟩
    rcases (hasTemplate_iff distinct).mp to? with ⟨toNode, second, known'⟩
    by_contra refused
    exact kept ⟨fromNode, toNode, source, target, first, second, known, known',
      Bool.eq_false_iff.mpr refused⟩
  · rintro kept ⟨fromNode, toNode, source, target, first, second, known, known', refused⟩
    have allowed := kept source target ((hasTemplate_iff distinct).mpr ⟨fromNode, first, known⟩)
      ((hasTemplate_iff distinct).mpr ⟨toNode, second, known'⟩)
    exact absurd allowed (Bool.eq_false_iff.mp refused)

theorem breaksContext_eq {bridged : List Text} {source target : Template}
    (distinct : (nodes.map Node.id).Nodup) (from? : HasTemplate c nodes k.fromNode source)
    (to? : HasTemplate c nodes k.toNode target) :
    breaksContext c nodes bridged k = !crossingAllowed k.fromNode source target bridged := by
  rcases (hasTemplate_iff distinct).mp from? with ⟨fromNode, first, known⟩
  rcases (hasTemplate_iff distinct).mp to? with ⟨toNode, second, known'⟩
  have named := (lastNode?_mem first).2
  simp only [breaksContext, Catalog.nodeTemplate?, first, second, known, known', named]

end

theorem knows_iff {c : Catalog} {type : Text} : c.knows type = true ↔ ∃ t, c.find? type = some t :=
  Option.isSome_iff_exists

theorem HasTemplate.of_sublist {c : Catalog} {nodes fewer : List Node} {id : Text} {t : Template}
    (distinct : (nodes.map Node.id).Nodup) (sub : (shape fewer).Sublist (shape nodes))
    (stays : id ∈ fewer.map Node.id) (has : HasTemplate c nodes id t) : HasTemplate c fewer id t := by
  rcases has with ⟨n, member, rfl, known⟩
  rcases List.mem_map.mp stays with ⟨m, present, named⟩
  rcases List.mem_map.mp (sub.subset (List.mem_map_of_mem present)) with ⟨o, original, same⟩
  rcases Prod.mk.inj same with ⟨id, type⟩
  have one : o = n := List.inj_on_of_nodup_map distinct original member (id.trans named)
  subst one
  exact ⟨m, present, named, type ▸ known⟩

namespace Script

section

variable {c : Catalog} {s t : Script}

theorem WellFormed.of_shape (same : shape t.nodes = shape s.nodes) (links : t.connections = s.connections)
    (parents : ∀ n ∈ t.nodes, ∀ parent, n.parentId = some parent → parent ∈ t.nodes.map Node.id)
    (formed : s.WellFormed c) : t.WellFormed c where
  nodes := by
    rw [ids_of_shape same]
    exact formed.nodes
  connections := links ▸ formed.connections
  types := by
    intro n member
    have listed : (n.id, n.type) ∈ shape s.nodes := same ▸ List.mem_map_of_mem member
    rcases List.mem_map.mp listed with ⟨m, present, equal⟩
    exact (Prod.mk.inj equal).2 ▸ formed.types m present
  joined := by
    intro k member
    exact (formed.joined k (links ▸ member)).of_shape same.symm
  inputs := links ▸ formed.inputs
  crossings := by
    intro k member source target from? to?
    rw [hasTemplate_shape, same, ← hasTemplate_shape] at from? to?
    have bridged : t.bridged c = s.bridged c := by
      rw [bridged, bridged, bridgedTargets_of_shape same, links]
    rw [bridged]
    exact formed.crossings k (links ▸ member) source target from? to?
  parents := parents

theorem bridged_extend {more : List Node} {links : List Connection}
    (nodes : t.nodes = s.nodes ++ more) (connections : t.connections = s.connections ++ links)
    (fresh : ((s.nodes ++ more).map Node.id).Nodup) : s.bridged c ⊆ t.bridged c := by
  apply bridgedTargets_mono
  · rw [nodes, bridges, bridges, List.filter_append, List.map_append]
    exact List.subset_append_left _ _
  · intro b carrier
    rcases carries_iff.mp carrier with ⟨n, _, found, _⟩
    rcases lastNode?_mem found with ⟨member, rfl⟩
    have old : n.id ∉ more.map Node.id := by
      rw [List.map_append] at fresh
      exact fun new => List.disjoint_of_nodup_append fresh (List.mem_map_of_mem member) new
    rw [carries, nodes, lastNode?_append_old old]
    exact carrier
  · rw [connections]
    exact List.subset_append_left _ _

/-- New nodes and connections keep the rules if they keep them among all that is there then. -/
theorem WellFormed.extend {more : List Node} {links : List Connection}
    (nodes : t.nodes = s.nodes ++ more) (connections : t.connections = s.connections ++ links)
    (fresh : ((s.nodes ++ more).map Node.id).Nodup)
    (known : ∀ n ∈ more, c.knows n.type = true)
    (parents : ∀ n ∈ more, ∀ parent, n.parentId = some parent → parent ∈ t.nodes.map Node.id)
    (freshLinks : ((s.connections ++ links).map Connection.id).Nodup)
    (joined : ∀ k ∈ links, Joins c t.nodes k)
    (inputs : ((s.connections ++ links).map Connection.input).Nodup)
    (legal : ∀ k ∈ links, breaksContext c t.nodes (t.bridged c) k = false)
    (formed : s.WellFormed c) : t.WellFormed c := by
  have distinct : (t.nodes.map Node.id).Nodup := nodes ▸ fresh
  have old : s.nodes ⊆ t.nodes := nodes ▸ List.subset_append_left _ _
  refine ⟨⟨distinct, connections ▸ freshLinks, ?_, ?_, connections ▸ inputs⟩, ?_, ?_⟩
  · intro n member
    rw [nodes, List.mem_append] at member
    rcases member with member | member
    · exact formed.types n member
    · exact known n member
  · intro k member
    rw [connections, List.mem_append] at member
    rcases member with member | member
    · exact (formed.joined k member).mono old
    · exact joined k member
  · intro k member source target from? to?
    rw [connections, List.mem_append] at member
    rcases member with member | member
    · rcases formed.joined k member with ⟨source', target', _, _, from', to', _⟩
      cases from?.unique distinct (from'.mono old)
      cases to?.unique distinct (to'.mono old)
      exact crossingAllowed_of_fed (bridged_extend nodes connections fresh ·)
        (formed.crossings k member source target from' to')
    · exact (breaksContext_eq_false distinct).mp (legal k member) source target from? to?
  · intro n member parent named
    have present := member
    rw [nodes, List.mem_append] at present
    rcases present with present | present
    · exact List.map_subset _ old (formed.parents n present parent named)
    · exact parents n present parent named

/-- What is left keeps the rules if its connections keep their ends and the context rule. -/
theorem WellFormed.cut (sub : (shape t.nodes).Sublist (shape s.nodes))
    (links : t.connections.Sublist s.connections)
    (ends : ∀ k ∈ t.connections, k.fromNode ∈ t.nodes.map Node.id ∧ k.toNode ∈ t.nodes.map Node.id)
    (legal : illegal c t.nodes t.connections = [])
    (parents : ∀ n ∈ t.nodes, ∀ parent, n.parentId = some parent → parent ∈ t.nodes.map Node.id)
    (formed : s.WellFormed c) : t.WellFormed c := by
  have ids : (t.nodes.map Node.id).Sublist (s.nodes.map Node.id) := by
    simpa [shape, Function.comp_def] using sub.map Prod.fst
  have distinct := formed.nodes.sublist ids
  refine ⟨⟨distinct, formed.connections.sublist (links.map _), ?_, ?_,
    formed.inputs.sublist (links.map _)⟩, ?_, parents⟩
  · intro n member
    rcases List.mem_map.mp (sub.subset (List.mem_map_of_mem member)) with ⟨m, present, equal⟩
    exact (Prod.mk.inj equal).2 ▸ formed.types m present
  · intro k member
    refine (formed.joined k (links.subset member)).lift (fun id => id) ?_ ⟨rfl, rfl⟩ ⟨rfl, rfl⟩
    rintro id template (rfl | rfl) has
    · exact has.of_sublist formed.nodes sub (ends k member).1
    · exact has.of_sublist formed.nodes sub (ends k member).2
  · intro k member
    exact (breaksContext_eq_false distinct).mp (illegal_eq_nil.mp legal k member)

end

end Script

end NodeScript
