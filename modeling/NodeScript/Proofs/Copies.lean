import NodeScript.Proofs.Script.Edit
import NodeScript.Project.Edit

namespace NodeScript

variable {copies : List (Node × Text)} {id new : Text}

theorem copyOf?_mem (found : copyOf? copies id = some new) : ∃ n, (n, new) ∈ copies ∧ n.id = id := by
  rcases Option.map_eq_some_iff.mp found with ⟨p, looked, rfl⟩
  have named := List.find?_some looked
  exact ⟨p.1, List.mem_reverse.mp (List.mem_of_find?_eq_some looked), by simpa using named⟩

theorem copyOf?_of_mem (distinct : (copies.map fun p => p.1.id).Nodup) {n : Node}
    (member : (n, new) ∈ copies) : copyOf? copies n.id = some new := by
  have reversed : (copies.reverse.map fun p => p.1.id).Nodup := by
    rw [List.map_reverse]
    exact List.nodup_reverse.mpr distinct
  have found := find?_key reversed (List.mem_reverse.mpr member)
  simp only [copyOf?, found, Option.map_some]

theorem copyOf?_new (found : copyOf? copies id = some new) : new ∈ copies.map Prod.snd := by
  rcases copyOf?_mem found with ⟨n, member, _⟩
  exact List.mem_map_of_mem member

theorem copyOf?_injective (news : (copies.map Prod.snd).Nodup) {other : Text}
    (first : copyOf? copies id = some new) (second : copyOf? copies other = some new) : id = other := by
  rcases copyOf?_mem first with ⟨n, member, rfl⟩
  rcases copyOf?_mem second with ⟨m, member', rfl⟩
  have same := List.inj_on_of_nodup_map news member member' rfl
  exact congrArg (fun p => p.1.id) same

theorem copiedLink?_eq_some {k : Connection} {l : Link} :
    copiedLink? copies k = some l ↔ copyOf? copies k.fromNode = some l.fromNode ∧
      copyOf? copies k.toNode = some l.toNode ∧ k.fromPort = l.fromPort ∧ k.toPort = l.toPort := by
  rcases l with ⟨fromNode, fromPort, toNode, toPort⟩
  simp only [copiedLink?, bind, pure, Option.bind_eq_some_iff, Option.some.injEq, Link.mk.injEq]
  constructor
  · rintro ⟨a, first, b, second, rfl, rfl, rfl, rfl⟩
    exact ⟨first, second, rfl, rfl⟩
  · rintro ⟨first, second, rfl, rfl⟩
    exact ⟨fromNode, first, toNode, second, rfl, rfl, rfl, rfl⟩

namespace Connection

def within (ids : List Text) (k : Connection) : Bool := ids.contains k.fromNode && ids.contains k.toNode

def linkUnder (rename : Text → Text) (k : Connection) : Link :=
  { k.link with fromNode := rename k.fromNode, toNode := rename k.toNode }

end Connection

theorem copyOf?_isSome {nodes : List Node} (items : copies.map Prod.fst = nodes) :
    (copyOf? copies id).isSome = true ↔ id ∈ nodes.map Node.id := by
  subst items
  simp [copyOf?]

theorem copiedLinks_eq {nodes : List Node} (items : copies.map Prod.fst = nodes)
    (connections : List Connection) : connections.filterMap (copiedLink? copies) =
      (connections.filter (·.within (nodes.map Node.id))).map
        (·.linkUnder fun id => (copyOf? copies id).getD id) := by
  have ends (id : Text) : (nodes.map Node.id).contains id = (copyOf? copies id).isSome := by
    rw [Bool.eq_iff_iff, List.contains_iff_mem, copyOf?_isSome items]
  induction connections with
  | nil => rfl
  | cons k rest ih =>
      rw [List.filterMap_cons, List.filter_cons, ih, Connection.within, ends, ends]
      cases first : copyOf? copies k.fromNode <;> cases second : copyOf? copies k.toNode <;>
        simp [copiedLink?, Connection.linkUnder, Connection.link, first, second]

def IsCopy (copies : List (Node × Text)) (k copy : Connection) : Prop :=
  copiedLink? copies k = some copy.link

section

variable (copies : List (Node × Text)) (connections : List Connection) (ids : IdSupply)

theorem copiedConnections_links :
    (copiedConnections copies connections ids).1.map Connection.link =
      connections.filterMap (copiedLink? copies) := by
  have plain (p : Link × Text) : (p.1.connection p.2).link = p.1 := rfl
  simp only [copiedConnections, List.map_map, Function.comp_def, plain]
  exact IdSupply.drawFor_items ids _

theorem copiedConnections_new :
    IdSupply.New ids (copiedConnections copies connections ids).2
      ((copiedConnections copies connections ids).1.map Connection.id) := by
  have named (p : Link × Text) : (p.1.connection p.2).id = p.2 := rfl
  simp only [copiedConnections, List.map_map, Function.comp_def, named]
  exact IdSupply.drawFor_new ids _

variable {copies connections ids}

theorem mem_copiedConnections {copy : Connection}
    (member : copy ∈ (copiedConnections copies connections ids).1) :
    ∃ k ∈ connections, IsCopy copies k copy := by
  have link : copy.link ∈ connections.filterMap (copiedLink? copies) :=
    copiedConnections_links copies connections ids ▸ List.mem_map_of_mem member
  exact List.mem_filterMap.mp link

theorem copiedConnections_of_mem {k : Connection} {from' to' : Text} (member : k ∈ connections)
    (first : copyOf? copies k.fromNode = some from') (second : copyOf? copies k.toNode = some to') :
    (from', to') ∈ edges (copiedConnections copies connections ids).1 := by
  have copied : copiedLink? copies k = some ⟨from', k.fromPort, to', k.toPort⟩ :=
    copiedLink?_eq_some.mpr ⟨first, second, rfl, rfl⟩
  have link := List.mem_filterMap.mpr ⟨k, member, copied⟩
  rw [← copiedConnections_links copies connections ids] at link
  rcases List.mem_map.mp link with ⟨copy, present, same⟩
  exact mem_edges.mpr ⟨copy, present, congrArg Link.fromNode same, congrArg Link.toNode same⟩

theorem copiedConnections_inputs (news : (copies.map Prod.snd).Nodup)
    (inputs : (connections.map Connection.input).Nodup) :
    ((copiedConnections copies connections ids).1.map Connection.input).Nodup := by
  have apart : (connections.filterMap (copiedLink? copies)).Pairwise
      fun l m => (l.toNode, l.toPort) ≠ (m.toNode, m.toPort) := by
    refine List.Pairwise.filterMap _ ?_ (List.pairwise_map.mp inputs)
    intro k k' other l copied m copied' same
    rcases copiedLink?_eq_some.mp copied with ⟨_, second, _, port⟩
    rcases copiedLink?_eq_some.mp copied' with ⟨_, second', _, port'⟩
    rcases Prod.mk.inj same with ⟨node, name⟩
    have origin := copyOf?_injective news second (node ▸ second')
    exact other (Prod.ext origin ((port.trans name).trans port'.symm))
  rw [← copiedConnections_links copies connections ids, List.pairwise_map] at apart
  exact List.pairwise_map.mpr apart

end

section

variable {c : Catalog} {nodes : List Node} {copy : Node → Node}

theorem copied_ids (items : copies.map Prod.fst = nodes) (distinct : (nodes.map Node.id).Nodup)
    (named : ∀ n, (copy n).id = (copyOf? copies n.id).getD n.id) :
    (nodes.map copy).map Node.id = copies.map Prod.snd := by
  subst items
  simp only [List.map_map]
  apply List.map_congr_left
  intro p member
  have found := copyOf?_of_mem (by simpa [Function.comp_def] using distinct) member
  simp [named, found]

theorem hasTemplate_copy {t : Template} (has : HasTemplate c nodes id t)
    (named : ∀ n, (copy n).id = (copyOf? copies n.id).getD n.id)
    (typed : ∀ n, (copy n).type = n.type) (found : copyOf? copies id = some new) :
    HasTemplate c (nodes.map copy) new t := by
  rcases has with ⟨n, member, rfl, known⟩
  exact ⟨copy n, List.mem_map_of_mem member, by simp [named, found], (typed n).symm ▸ known⟩

theorem joins_copy {k link : Connection} (joins : Joins c nodes k) (copied : IsCopy copies k link)
    (named : ∀ n, (copy n).id = (copyOf? copies n.id).getD n.id)
    (typed : ∀ n, (copy n).type = n.type) : Joins c (nodes.map copy) link := by
  rcases copiedLink?_eq_some.mp copied with ⟨first, second, port, port'⟩
  refine joins.lift (fun id => (copyOf? copies id).getD id) ?_ ?_ ⟨port.symm, port'.symm⟩
  · rintro id t (rfl | rfl) has
    · exact hasTemplate_copy has named typed (by rw [first, Option.getD_some])
    · exact hasTemplate_copy has named typed (by rw [second, Option.getD_some])
  · rw [first, second]
    exact ⟨rfl, rfl⟩

end

end NodeScript
