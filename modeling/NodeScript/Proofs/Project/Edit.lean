import NodeScript.Proofs.Copies

namespace NodeScript.Project

variable {c : Catalog} {copies : List (Node × Text)} {ids : IdSupply} {source : Script}

theorem copiedNode_parent {n : Node} {parent : Text}
    (named : (copiedNode copies n).parentId = some parent) : parent ∈ copies.map Prod.snd := by
  rcases Option.bind_eq_some_iff.mp named with ⟨original, _, found⟩
  split at found
  · cases found
  · exact copyOf?_new found

theorem bridged_copy {connections : List Connection} {id new : Text}
    (items : copies.map Prod.fst = source.nodes) (unique : (source.nodes.map Node.id).Nodup)
    (ends : ∀ k ∈ source.connections,
      k.fromNode ∈ source.nodes.map Node.id ∧ k.toNode ∈ source.nodes.map Node.id)
    (distinct : (copies.map Prod.snd).Nodup)
    (linked : ∀ k ∈ source.connections, ∀ a b, copyOf? copies k.fromNode = some a →
      copyOf? copies k.toNode = some b → (a, b) ∈ edges connections)
    (found : copyOf? copies id = some new) (fed : id ∈ source.bridged c) :
    new ∈ bridgedTargets c (source.nodes.map (copiedNode copies)) connections := by
  have ids : (source.nodes.map (copiedNode copies)).map Node.id = copies.map Prod.snd :=
    copied_ids items unique fun _ => rfl
  have apart : ((source.nodes.map (copiedNode copies)).map Node.id).Nodup := ids ▸ distinct
  have copied {b : Text} {t : Template} (has : HasTemplate c source.nodes b t) :
      HasTemplate c (source.nodes.map (copiedNode copies)) ((copyOf? copies b).getD b) t := by
    rcases has with ⟨n, member, rfl, known⟩
    exact ⟨copiedNode copies n, List.mem_map_of_mem member, rfl, known⟩
  have renamed : new = (copyOf? copies id).getD id := by rw [found, Option.getD_some]
  rw [renamed]
  refine bridgedTargets_lift (fun b => (copyOf? copies b).getD b) ?_ ?_ ?_ fed
  · intro b bridge
    rcases mem_bridges_iff_template.mp bridge with ⟨t, has, isBridge⟩
    exact mem_bridges_iff_template.mpr ⟨t, copied has, isBridge⟩
  · intro b carrier
    rcases (carries_iff_template unique).mp carrier with ⟨t, has, context, plain⟩
    exact (carries_iff_template apart).mpr ⟨t, copied has, context, plain⟩
  · intro k member _
    rcases ends k member with ⟨source, target⟩
    rcases Option.isSome_iff_exists.mp ((copyOf?_isSome items).mpr source) with ⟨a, first⟩
    rcases Option.isSome_iff_exists.mp ((copyOf?_isSome items).mpr target) with ⟨b, second⟩
    rw [first, second]
    exact linked k member a b first second

theorem empty_sound {s : Script} (nodes : s.nodes = []) (connections : s.connections = []) :
    s.Sound c ids := by
  refine ⟨⟨⟨?_, ?_, ?_, ?_, ?_⟩, ?_, ?_⟩, ?_, ?_⟩ <;> simp [nodes, connections]

theorem copied_sound {t : Script} {more : IdSupply} (items : copies.map Prod.fst = source.nodes)
    (newNodes : IdSupply.New ids more (copies.map Prod.snd))
    (newLinks : IdSupply.New ids more (t.connections.map Connection.id))
    (nodes : t.nodes = source.nodes.map (copiedNode copies))
    (copied : ∀ link ∈ t.connections, ∃ k ∈ source.connections, IsCopy copies k link)
    (linked : ∀ k ∈ source.connections, ∀ a b, copyOf? copies k.fromNode = some a →
      copyOf? copies k.toNode = some b → (a, b) ∈ edges t.connections)
    (inputs : (t.connections.map Connection.input).Nodup) (formed : source.WellFormed c) :
    t.Sound c more := by
  have named : t.nodes.map Node.id = copies.map Prod.snd := by
    rw [nodes]
    exact copied_ids items formed.nodes fun _ => rfl
  have start : Script.Sound c ids { t with nodes := [], connections := [] } := empty_sound rfl rfl
  refine start.extend t.nodes t.connections rfl rfl (named ▸ newNodes) newLinks ?_ ?_ ?_ ?_ ?_
  · intro n member
    rw [nodes] at member
    rcases List.mem_map.mp member with ⟨original, present, rfl⟩
    exact formed.types original present
  · intro n member parent isParent
    rw [nodes] at member
    rcases List.mem_map.mp member with ⟨original, _, rfl⟩
    exact named ▸ copiedNode_parent isParent
  · intro link member
    rcases copied link member with ⟨k, present, copy⟩
    rw [nodes]
    exact joins_copy (formed.joined k present) copy (fun _ => rfl) fun _ => rfl
  · exact inputs
  · intro link member
    rcases copied link member with ⟨k, present, copy⟩
    rcases copiedLink?_eq_some.mp copy with ⟨first, second, _, _⟩
    rcases formed.joined k present with ⟨source', target', _, _, from?, to?, _⟩
    have distinct : (t.nodes.map Node.id).Nodup := named ▸ newNodes.distinct
    refine (breaksContext_eq_false distinct).mpr ?_
    intro fromTemplate toTemplate has has'
    rw [nodes] at distinct has has'
    cases has.unique distinct (hasTemplate_copy from? (fun _ => rfl) (fun _ => rfl) first)
    cases has'.unique distinct (hasTemplate_copy to? (fun _ => rfl) (fun _ => rfl) second)
    refine crossingAllowed_of_fed ?_ (formed.crossings k present _ _ from? to?)
    intro fed
    rw [Script.bridged, nodes]
    refine bridged_copy items formed.nodes ?_ newNodes.distinct linked first fed
    intro k member
    rcases formed.joined k member with ⟨_, _, _, _, from?, to?, _⟩
    exact ⟨from?.named, to?.named⟩

theorem copyScript_sound (name : Option Text) (formed : source.WellFormed c) :
    (copyScript name source ids).1.Sound c (copyScript name source ids).2 := by
  have items := IdSupply.drawFor_items ids source.nodes
  have newNodes := IdSupply.drawFor_new ids source.nodes
  have newLinks := copiedConnections_new (ids.drawFor source.nodes).1 source.connections
    (ids.drawFor source.nodes).2
  have last := IdSupply.le_draw (copiedConnections (ids.drawFor source.nodes).1 source.connections
    (ids.drawFor source.nodes).2).2
  refine copied_sound items
    (newNodes.widen (IdSupply.le_refl ids) (IdSupply.le_trans newLinks.later last))
    (newLinks.widen newNodes.later last) rfl ?_ ?_ ?_ formed
  · exact fun link member => mem_copiedConnections member
  · exact fun k member a b first second => copiedConnections_of_mem member first second
  · exact copiedConnections_inputs newNodes.distinct formed.inputs

theorem duplicateScript_ok {p : Project} {id : Option Text} (name : Option Text) (ids : IdSupply)
    (found : p.requireScript id = .ok source) : p.duplicateScript id name ids =
      .ok ((copyScript name source ids).1,
        { p with scripts := p.scripts ++ [(copyScript name source ids).1] },
        (copyScript name source ids).2) := by
  rw [duplicateScript, found, ok_bind]
  rfl

theorem copyScript_new (name : Option Text) (source : Script) (ids : IdSupply) :
    IdSupply.New ids (copyScript name source ids).2 [(copyScript name source ids).1.id] := by
  have nodes := (IdSupply.drawFor_new ids source.nodes).later
  have links := (copiedConnections_new (ids.drawFor source.nodes).1 source.connections
    (ids.drawFor source.nodes).2).later
  exact (IdSupply.new_draw _).widen (IdSupply.le_trans nodes links) (IdSupply.le_refl _)

end NodeScript.Project
