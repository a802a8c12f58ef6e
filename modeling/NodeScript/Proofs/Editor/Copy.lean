import NodeScript.Editor.Copy
import NodeScript.Proofs.Copies
import NodeScript.Proofs.Script.Remainder

namespace NodeScript.Desk

variable {c : Catalog} {bridged : List Text}

theorem keptConnections_eq {copies : List Node} {links kept : List Connection}
    (ok : keptConnections c copies bridged links = .ok kept) :
    kept = links.filter fun k => decide (keepsContext c copies bridged k = .ok true) := by
  induction links generalizing kept with
  | nil =>
      cases ok
      rfl
  | cons k rest ih =>
      rcases ok_of_bind ok with ⟨keep, checked, ok⟩
      rcases ok_of_bind ok with ⟨more, found, ok⟩
      cases ok
      rw [ih found, List.filter_cons, checked]
      cases keep <;> simp

theorem keepsContext_iff {copies : List Node} (distinct : (copies.map Node.id).Nodup) {k : Connection}
    {source target : Template} (from? : HasTemplate c copies k.fromNode source)
    (to? : HasTemplate c copies k.toNode target) :
    keepsContext c copies bridged k = .ok (crossingAllowed k.fromNode source target bridged) := by
  rcases (hasTemplate_iff distinct).mp from? with ⟨fromNode, first, known⟩
  rcases (hasTemplate_iff distinct).mp to? with ⟨toNode, second, known'⟩
  have named := (lastNode?_mem first).2
  simp only [keepsContext, first, second, Catalog.templateOf_ok.mpr known,
    Catalog.templateOf_ok.mpr known', named]
  rfl

/-- Between copies of known types no check fails, and those connections are kept that a sweep over the
whole script leaves. -/
theorem keptConnections_sweep {old copies : List Node} {links : List Connection}
    (distinct : ((old ++ copies).map Node.id).Nodup) (bridged : List Text)
    (ended : ∀ k ∈ links, ∃ source target, HasTemplate c copies k.fromNode source ∧
      HasTemplate c copies k.toNode target) :
    keptConnections c copies bridged links =
      .ok (links.filter fun k => !breaksContext c (old ++ copies) bridged k) := by
  induction links with
  | nil => rfl
  | cons k rest ih =>
      obtain ⟨⟨source, target, from?, to?⟩, tail⟩ := List.forall_mem_cons.mp ended
      have unique : (copies.map Node.id).Nodup :=
        distinct.sublist ((List.sublist_append_right old copies).map _)
      have rule : breaksContext c (old ++ copies) bridged k =
          !crossingAllowed k.fromNode source target bridged :=
        breaksContext_eq distinct (from?.mono (List.subset_append_right _ _))
          (to?.mono (List.subset_append_right _ _))
      rw [keptConnections, keepsContext_iff unique from? to?, ih tail, List.filter_cons, rule, Bool.not_not]
      rfl

theorem copiedNode_parent {drawn : List (Node × Text)} {offset : Float} {n : Node} {parent : Text}
    (named : (copiedNode drawn offset n).parentId = some parent) :
    parent ∈ drawn.map Prod.snd ∨ n.parentId = some parent := by
  rcases Option.map_eq_some_iff.mp named with ⟨original, isParent, same⟩
  cases found : copyOf? drawn original with
  | none =>
      rw [found, Option.getD_none] at same
      exact Or.inr (same ▸ isParent)
  | some new =>
      rw [found, Option.getD_some] at same
      exact Or.inl (same ▸ copyOf?_new found)

section

variable {s t : Script} {ids more : IdSupply} {drawn : List (Node × Text)} {offset : Float}
  {selected : List Node} {links kept : List Connection}

theorem joins_selected_copy {k link : Connection} (items : drawn.map Prod.fst = selected)
    (sub : selected.Sublist s.nodes) (formed : s.WellFormed c) (member : k ∈ s.connections)
    (copied : IsCopy drawn k link) : Joins c (selected.map (copiedNode drawn offset)) link := by
  have stays {id new : Text} (found : copyOf? drawn id = some new) : id ∈ selected.map Node.id := by
    rcases copyOf?_mem found with ⟨n, present, rfl⟩
    exact List.mem_map_of_mem (items ▸ List.mem_map_of_mem present)
  rcases copiedLink?_eq_some.mp copied with ⟨first, second, _, _⟩
  have within : Joins c selected k := by
    refine (formed.joined k member).lift (fun id => id) ?_ ⟨rfl, rfl⟩ ⟨rfl, rfl⟩
    rintro id template (rfl | rfl) has
    · exact has.of_sublist formed.nodes (sub.map _) (stays first)
    · exact has.of_sublist formed.nodes (sub.map _) (stays second)
  exact joins_copy within copied (fun _ => rfl) fun _ => rfl

/-- What is kept is legal: the connections that are dropped bridged nothing. -/
theorem kept_legal {copies : List Node} (distinct : ((s.nodes ++ copies).map Node.id).Nodup)
    (joined : ∀ k ∈ links, Joins c copies k)
    (ok : keptConnections c copies (bridgedTargets c (s.nodes ++ copies) links) links = .ok kept) :
    Legal c (s.nodes ++ copies) kept := by
  have swept := keptConnections_sweep distinct (bridgedTargets c (s.nodes ++ copies) links) fun k member => by
    rcases joined k member with ⟨source, target, _, _, from?, to?, _⟩
    exact ⟨source, target, from?, to?⟩
  cases ok.symm.trans swept
  exact legal_sweep distinct

theorem copied_inputs (sound : s.Sound c ids) (new : IdSupply.New ids more (drawn.map Prod.snd))
    (copied : ∀ link ∈ links, ∃ k ∈ s.connections, IsCopy drawn k link)
    (inputs : (links.map Connection.input).Nodup) :
    ((s.connections ++ links).map Connection.input).Nodup := by
  rw [List.map_append]
  refine List.nodup_append.mpr ⟨sound.formed.inputs, inputs, ?_⟩
  rintro a old b later rfl
  rcases List.mem_map.mp old with ⟨k, present, rfl⟩
  rcases List.mem_map.mp later with ⟨link, member, same⟩
  rcases copied link member with ⟨_, _, copy⟩
  rcases copiedLink?_eq_some.mp copy with ⟨_, second, _, _⟩
  rcases sound.formed.joined k present with ⟨_, _, _, _, _, to?, _⟩
  have ends : link.toNode = k.toNode := congrArg Prod.fst same
  have spent : ids.Spent link.toNode := by
    rw [ends]
    exact sound.nodes _ to?.named
  exact new.fresh _ (copyOf?_new second) spent

theorem duplicated_sound (items : drawn.map Prod.fst = selected) (sub : selected.Sublist s.nodes)
    (newNodes : IdSupply.New ids more (drawn.map Prod.snd))
    (newLinks : IdSupply.New ids more (links.map Connection.id))
    (copied : ∀ link ∈ links, ∃ k ∈ s.connections, IsCopy drawn k link)
    (inputs : (links.map Connection.input).Nodup)
    (ok : keptConnections c (selected.map (copiedNode drawn offset))
      (bridgedTargets c (s.nodes ++ selected.map (copiedNode drawn offset)) links) links = .ok kept)
    (nodes : t.nodes = s.nodes ++ selected.map (copiedNode drawn offset))
    (connections : t.connections = s.connections ++ kept) (sound : s.Sound c ids) :
    t.Sound c more := by
  have formed := sound.formed
  have named : (selected.map (copiedNode drawn offset)).map Node.id = drawn.map Prod.snd :=
    copied_ids items (formed.nodes.sublist (sub.map _)) fun _ => rfl
  have distinct : ((s.nodes ++ selected.map (copiedNode drawn offset)).map Node.id).Nodup := by
    rw [List.map_append, named]
    exact newNodes.append formed.nodes sound.nodes
  have joined : ∀ k ∈ links, Joins c (selected.map (copiedNode drawn offset)) k := by
    intro link member
    rcases copied link member with ⟨k, present, copy⟩
    exact joins_selected_copy items sub formed present copy
  have fewer : kept.Sublist links := by
    rw [keptConnections_eq ok]
    exact List.filter_sublist
  have keptNew : IdSupply.New ids more (kept.map Connection.id) := newLinks.sublist (fewer.map _)
  refine sound.extend _ kept nodes connections (named ▸ newNodes) keptNew ?_ ?_ ?_ ?_ ?_
  · intro n member
    rcases List.mem_map.mp member with ⟨original, present, rfl⟩
    exact formed.types original (sub.subset present)
  · intro n member parent isParent
    rcases List.mem_map.mp member with ⟨original, present, rfl⟩
    rw [nodes, List.map_append, List.mem_append, named]
    rcases copiedNode_parent isParent with new | old
    · exact Or.inr new
    · exact Or.inl (formed.parents original (sub.subset present) parent old)
  · intro k member
    rw [nodes]
    exact (joined k (fewer.subset member)).mono (List.subset_append_right _ _)
  · exact copied_inputs sound newNodes (fun link member => copied link (fewer.subset member))
      (inputs.sublist (fewer.map _))
  · intro k member
    rw [Script.bridged, nodes, connections]
    -- Dropped connections bridged nothing, so what is kept keeps the rule beside the old ones too.
    exact (kept_legal distinct joined ok).keeps distinct (List.subset_append_right _ _) member

end

end NodeScript.Desk
