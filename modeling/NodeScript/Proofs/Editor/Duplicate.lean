import NodeScript.Proofs.Editor.Copy
import NodeScript.Proofs.Script.Deletions

/-!
What duplicating a selection makes. Every selected node gets one copy, and every connection among the
selected nodes an image among the copies; of the images those are added that the greatest legal set of
them holds. One look at each image is enough to find that set: an image that breaks the context rule
bridges nothing, so the others are bridged as well without it.
-/
namespace NodeScript

/-- The copy of a node under new ids; a parent that is not copied too stays its parent. -/
def Node.copyUnder (rename : Text → Text) (copied : List Text) (offset : Float) (n : Node) : Node :=
  { n with
    id := rename n.id
    position := { x := n.position.x + offset, y := n.position.y + offset }
    parentId := n.parentId.map fun parent => if parent ∈ copied then rename parent else parent }

/-- What is added to a script when the nodes of the ids are copied: the copies, and of the images of
the connections among them those that keep the context rule. -/
structure Script.Duplicates (c : Catalog) (offset : Float) (s : Script) (selected : List Text)
    (ids more : IdSupply) (rename : Text → Text) (copies : List Node) (images kept : List Connection) :
    Prop where
  nodes : copies = (s.nodes.filter fun n => selected.contains n.id).map
    (·.copyUnder rename selected offset)
  links : images.map Connection.link =
    (s.connections.filter (·.within selected)).map (·.linkUnder rename)
  new : IdSupply.New ids more (copies.map Node.id ++ images.map Connection.id)
  apart : ∀ id ∈ copies.map Node.id ++ images.map Connection.id,
    id ∉ s.nodes.map Node.id ++ s.connections.map Connection.id
  order : kept.Sublist images
  legal : Legal c (s.nodes ++ copies) kept
  greatest : ∀ other ⊆ images, Legal c (s.nodes ++ copies) other → other ⊆ kept

theorem Script.duplicates_none {c : Catalog} {offset : Float} {s : Script} {ids : IdSupply} :
    s.Duplicates c offset [] ids ids (fun id => id) [] [] [] where
  nodes := by simp
  links := by simp [Connection.within]
  new := IdSupply.new_nil (IdSupply.le_refl ids)
  apart := by simp
  order := List.Sublist.refl _
  legal := by simp [Legal]
  greatest := fun _ sub _ => sub

namespace Desk

section

variable {c : Catalog} {d : Desk} {selected : List Text} {search : Option Session}

theorem refresh_there (held : d.editor = .resting (.nodes selected) search)
    (there : selected ⊆ d.script.nodes.map Node.id) : d.refresh = d.choose (.ofNodes selected) := by
  have all : (selected.filter fun id => (d.script.node? id).isSome) = selected :=
    List.filter_eq_self.mpr fun id member => Script.node?_isSome.mpr (there member)
  simp only [refresh, held, Selection.present, all]

def chosen (d : Desk) (selected : List Text) : List Node :=
  d.script.nodes.filter (isSelected (.nodes selected))

theorem chosen_ids (there : selected ⊆ d.script.nodes.map Node.id) {id : Text} :
    id ∈ (d.chosen selected).map Node.id ↔ id ∈ selected := by
  simp only [chosen, isSelected, Selection.nodeIds, List.mem_map, List.mem_filter, List.contains_iff_mem]
  constructor
  · rintro ⟨n, ⟨_, listed⟩, rfl⟩
    exact listed
  · intro listed
    obtain ⟨n, member, rfl⟩ := List.mem_map.mp (there listed)
    exact ⟨n, ⟨member, listed⟩, rfl⟩

variable {drawn : List (Node × Text)} {offset : Float}

theorem copiedNode_eq (items : drawn.map Prod.fst = d.chosen selected)
    (there : selected ⊆ d.script.nodes.map Node.id) (n : Node) : copiedNode drawn offset n =
      n.copyUnder (fun id => (copyOf? drawn id).getD id) selected offset := by
  have parent (id : Text) : (copyOf? drawn id).getD id =
      if id ∈ selected then (copyOf? drawn id).getD id else id := by
    split
    · rfl
    · rename_i outside
      have none : copyOf? drawn id = none := by
        rw [← Option.not_isSome_iff_eq_none, copyOf?_isSome items, chosen_ids there]
        exact outside
      rw [none, Option.getD_none]
  simp only [copiedNode, Node.copyUnder, Position.shift, ← parent]

theorem images_ended {images : List Connection} (items : drawn.map Prod.fst = d.chosen selected)
    (known : ∀ n ∈ d.script.nodes, c.knows n.type = true)
    (copied : ∀ image ∈ images, ∃ k ∈ d.script.connections, IsCopy drawn k image) :
    ∀ image ∈ images, ∃ source target,
      HasTemplate c ((d.chosen selected).map (copiedNode drawn offset)) image.fromNode source ∧
      HasTemplate c ((d.chosen selected).map (copiedNode drawn offset)) image.toNode target := by
  have has {id new : Text} (found : copyOf? drawn id = some new) :
      ∃ t, HasTemplate c ((d.chosen selected).map (copiedNode drawn offset)) new t := by
    obtain ⟨n, member, rfl⟩ := copyOf?_mem found
    have present : n ∈ d.chosen selected := items ▸ List.mem_map_of_mem member
    obtain ⟨t, type⟩ := knows_iff.mp (known n (List.mem_filter.mp present).1)
    exact ⟨t, hasTemplate_copy ⟨n, present, rfl, type⟩ (fun _ => rfl) (fun _ => rfl) found⟩
  intro image member
  obtain ⟨k, _, copy⟩ := copied image member
  obtain ⟨first, second, _, _⟩ := copiedLink?_eq_some.mp copy
  obtain ⟨source, from?⟩ := has first
  obtain ⟨target, to?⟩ := has second
  exact ⟨source, target, from?, to?⟩

theorem duplicates_drawn (offset : Float) (distinct : (d.script.nodes.map Node.id).Nodup)
    (known : ∀ n ∈ d.script.nodes, c.knows n.type = true)
    (there : selected ⊆ d.script.nodes.map Node.id)
    (spent : ∀ id ∈ d.script.nodes.map Node.id ++ d.script.connections.map Connection.id, d.ids.Spent id) :
    ∃ rename copies images kept more,
      d.script.Duplicates c offset selected d.ids more rename copies images kept ∧
      d.duplicateNodes c offset (d.chosen selected) = (.ok copies, { d with
        script := { d.script with
          nodes := d.script.nodes ++ copies, connections := d.script.connections ++ kept }
        ids := more }.choose (.nodes (copies.map Node.id))) := by
  obtain ⟨drawn, mid, first⟩ : ∃ drawn mid, d.ids.drawFor (d.chosen selected) = (drawn, mid) := ⟨_, _, rfl⟩
  obtain ⟨images, more, second⟩ :
      ∃ images more, copiedConnections drawn d.script.connections mid = (images, more) := ⟨_, _, rfl⟩
  have items : drawn.map Prod.fst = d.chosen selected := by
    simpa only [first] using IdSupply.drawFor_items d.ids (d.chosen selected)
  have newNodes : IdSupply.New d.ids mid (drawn.map Prod.snd) := by
    simpa only [first] using IdSupply.drawFor_new d.ids (d.chosen selected)
  have newLinks : IdSupply.New mid more (images.map Connection.id) := by
    simpa only [second] using copiedConnections_new drawn d.script.connections mid
  have links : images.map Connection.link = d.script.connections.filterMap (copiedLink? drawn) := by
    simpa only [second] using copiedConnections_links drawn d.script.connections mid
  have copied : ∀ image ∈ images, ∃ k ∈ d.script.connections, IsCopy drawn k image := by
    intro image member
    exact mem_copiedConnections (by rw [second]; exact member)
  have named : ((d.chosen selected).map (copiedNode drawn offset)).map Node.id = drawn.map Prod.snd :=
    copied_ids items (distinct.sublist (List.filter_sublist.map _)) fun _ => rfl
  have new := newNodes.then newLinks
  have unique : ((d.script.nodes ++ (d.chosen selected).map (copiedNode drawn offset)).map Node.id).Nodup := by
    rw [List.map_append, named]
    exact newNodes.append distinct fun id member => spent id (List.mem_append_left _ member)
  -- Among copies of known types no check fails, so what is kept is one sweep over the images.
  have swept := keptConnections_sweep unique
    (bridgedTargets c (d.script.nodes ++ (d.chosen selected).map (copiedNode drawn offset)) images)
    (images_ended items known copied)
  refine ⟨fun id => (copyOf? drawn id).getD id, (d.chosen selected).map (copiedNode drawn offset), images,
    _, more, ⟨?_, ?_, named ▸ new, named ▸ new.not_mem spent, List.filter_sublist, legal_sweep unique,
      fun other sub legal => subset_sweep unique legal sub⟩, ?_⟩
  · exact List.map_congr_left fun n _ => copiedNode_eq items there n
  · rw [links, copiedLinks_eq items]
    congr 2
    funext k
    rw [Bool.eq_iff_iff]
    simp only [Connection.within, Bool.and_eq_true, List.contains_iff_mem, chosen_ids there]
  · simp only [duplicateNodes, first, second, swept]

end

/-- Duplicating a selection adds a copy of every selected node and the greatest legal set of the images
of the connections among them, selects the copies and changes nothing else. -/
theorem duplicateSelection_duplicates (c : Catalog) (offset : Float) (d : Desk) {selected : List Text}
    {search : Option Session} (held : d.editor = .resting (.nodes selected) search)
    (distinct : (d.script.nodes.map Node.id).Nodup)
    (known : ∀ n ∈ d.script.nodes, c.knows n.type = true)
    (there : selected ⊆ d.script.nodes.map Node.id)
    (spent : ∀ id ∈ d.script.nodes.map Node.id ++ d.script.connections.map Connection.id, d.ids.Spent id) :
    ∃ rename copies images kept more,
      d.script.Duplicates c offset selected d.ids more rename copies images kept ∧
      d.duplicateSelection c offset = (.ok copies, { d with
        script := { d.script with
          nodes := d.script.nodes ++ copies
          connections := d.script.connections ++ kept
          selectedNodes := copies.map Node.id
          selectedConnection := none }
        editor := .resting (.ofNodes (copies.map Node.id)) search
        ids := more }) := by
  have refreshed := refresh_there held there
  by_cases empty : selected = []
  · subst empty
    refine ⟨fun id => id, [], [], [], d.ids, Script.duplicates_none, ?_⟩
    rw [duplicateSelection, refreshed]
    simp only [Selection.ofNodes, if_true, choose, held, Editor.selection, Editor.leftSearch?,
      Script.recordSelection, Selection.nodeIds, Selection.connectionId?, List.append_nil, List.map_nil]
  · have stays : Selection.ofNodes selected = .nodes selected := if_neg empty
    obtain ⟨rename, copies, images, kept, more, duplicates, drawn⟩ :=
      duplicates_drawn (d := d.choose (.nodes selected)) offset distinct known there spent
    have made : Selection.ofNodes (copies.map Node.id) = .nodes (copies.map Node.id) := by
      refine if_neg fun none => ?_
      obtain ⟨id, member⟩ := List.exists_mem_of_ne_nil _ empty
      obtain ⟨n, copied, _⟩ := List.mem_map.mp ((chosen_ids there).mpr member)
      rw [List.map_eq_nil_iff, duplicates.nodes, List.map_eq_nil_iff] at none
      have nobody : d.chosen selected = [] := none
      exact List.not_mem_nil (nobody ▸ copied)
    refine ⟨rename, copies, images, kept, more, ⟨duplicates.nodes, duplicates.links, duplicates.new,
      duplicates.apart, duplicates.order, duplicates.legal, duplicates.greatest⟩, ?_⟩
    rw [duplicateSelection, refreshed, stays]
    exact drawn.trans (by rw [made]; simp only [choose, held, Editor.leftSearch?]; rfl)

def replyDesk : Desk := { script := replied, editor := .resting (.nodes ["read", "log"]) }

/-- The copy of the read stays in the group of the bridge; what it reads has an image on the way to the
copy of the log. -/
theorem duplicateSelection_duplicates_replied :
    replyDesk.editor = .resting (.nodes ["read", "log"]) ∧
      (replied.nodes.map Node.id).Nodup ∧ (∀ n ∈ replied.nodes, replyCatalog.knows n.type = true) ∧
      (["read", "log"] : List Text) ⊆ replied.nodes.map Node.id ∧
      (∀ id ∈ replied.nodes.map Node.id ++ replied.connections.map Connection.id,
        ({} : IdSupply).Spent id) ∧
      ∃ rename copies images kept more,
        replied.Duplicates replyCatalog 40 ["read", "log"] {} more rename copies images kept ∧
        copies.map Node.parentId = [some ("bridge" : Text), none] ∧
        copies.map Node.position = [⟨0 + 40, 0 + 40⟩, ⟨0 + 40, 0 + 40⟩] ∧ images.length = 1 ∧
        replyDesk.duplicateSelection replyCatalog 40 = (.ok copies, { replyDesk with
          script := { replied with
            nodes := replied.nodes ++ copies
            connections := replied.connections ++ kept
            selectedNodes := copies.map Node.id
            selectedConnection := none }
          editor := .resting (.ofNodes (copies.map Node.id))
          ids := more }) := by
  have distinct : (replied.nodes.map Node.id).Nodup := by decide
  have known : ∀ n ∈ replied.nodes, replyCatalog.knows n.type = true := by decide
  have there : (["read", "log"] : List Text) ⊆ replied.nodes.map Node.id := by decide
  have spent : ∀ id ∈ replied.nodes.map Node.id ++ replied.connections.map Connection.id,
      ({} : IdSupply).Spent id := IdSupply.spent_of_head (by decide)
  obtain ⟨rename, copies, images, kept, more, duplicates, made⟩ :=
    duplicateSelection_duplicates replyCatalog 40 replyDesk rfl distinct known there spent
  have parents : copies.map Node.parentId = [some ("bridge" : Text), none] := by
    rw [duplicates.nodes]
    rfl
  have shifted : copies.map Node.position = [⟨0 + 40, 0 + 40⟩, ⟨0 + 40, 0 + 40⟩] := by
    rw [duplicates.nodes]
    rfl
  have one : images.length = 1 := by
    have mapped := congrArg List.length duplicates.links
    rwa [List.length_map] at mapped
  exact ⟨rfl, distinct, known, there, spent, rename, copies, images, kept, more, duplicates, parents,
    shifted, one, made⟩

end Desk

end NodeScript
