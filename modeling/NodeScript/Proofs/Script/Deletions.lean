import Mathlib.Data.List.ReduceOption
import NodeScript.Proofs.Script.Remainder

/-!
Deletions one after the other. A run of deletions leaves the remainder of all that it named, as one
deletion would; so two runs that name the same nodes and the same connections leave the same script.
A deletion right after the addition takes back what was added.
-/
namespace NodeScript

/-- A request to delete a node, some nodes or a connection. -/
inductive Cut where
  | node (id : Option Text)
  | nodes (ids : List (Option Text))
  | connection (id : Option Text)
  deriving DecidableEq, Repr

namespace Cut

def run (c : Catalog) (s : Script) : Cut → Except GraphError Script
  | node id => Prod.snd <$> s.deleteNode c id
  | nodes ids => Prod.snd <$> s.deleteNodes c ids
  | connection id => Prod.snd <$> s.deleteConnection c id

def namedNodes : Cut → List Text
  | node id => id.toList
  | nodes ids => ids.reduceOption
  | connection _ => []

def namedConnections : Cut → List Text
  | connection id => id.toList
  | _ => []

def runAll (c : Catalog) (s : Script) : List Cut → Except GraphError Script
  | [] => .ok s
  | cut :: rest => do runAll c (← cut.run c s) rest

end Cut

namespace Script

section

variable {c : Catalog} {s t u : Script} {nodes connections more others : List Text}

theorem orphan_append (n : Node) : orphan more (orphan nodes n) = orphan (nodes ++ more) n := by
  cases parent : n.parentId with
  | none => simp [orphan, parent]
  | some id =>
      by_cases first : id ∈ nodes <;> by_cases second : id ∈ more <;>
        simp [orphan, parent, first, second]

theorem not_contains_append {id : Text} :
    (!(nodes ++ more).contains id) = (!nodes.contains id && !more.contains id) := by
  rw [List.contains_append, Bool.not_or]

theorem prune_append :
    (s.prune nodes connections).prune more others = s.prune (nodes ++ more) (connections ++ others) := by
  have stay : (((s.nodes.filter fun n => !nodes.contains n.id).map (orphan nodes)).filter
      fun n => !more.contains n.id).map (orphan more) =
      (s.nodes.filter fun n => !(nodes ++ more).contains n.id).map (orphan (nodes ++ more)) := by
    simp only [List.filter_map, List.map_map, List.filter_filter, Function.comp_def, orphan_id,
      orphan_append, not_contains_append, Bool.and_comm]
  have selected : (s.selectedNodes.filter fun id => !nodes.contains id).filter
      (fun id => !more.contains id) = s.selectedNodes.filter fun id => !(nodes ++ more).contains id := by
    simp only [List.filter_filter, not_contains_append, Bool.and_comm]
  have link : ((s.prune nodes connections).prune more others).selectedConnection =
      (s.prune (nodes ++ more) (connections ++ others)).selectedConnection := by
    cases chosen : s.selectedConnection with
    | none => simp [prune, chosen]
    | some id =>
        by_cases first : id ∈ connections <;> by_cases second : id ∈ others <;>
          simp [prune, chosen, first, second]
  exact Script.mk.injEq .. ▸ ⟨rfl, rfl, rfl, stay, (withoutIds_append _ _).symm, rfl, selected, link⟩

theorem contains_congr (same : ∀ id, id ∈ nodes ↔ id ∈ more) : nodes.contains = more.contains := by
  funext id
  rw [Bool.eq_iff_iff, List.contains_iff_mem, List.contains_iff_mem, same]

theorem prune_congr (sameNodes : ∀ id, id ∈ nodes ↔ id ∈ more)
    (sameConnections : ∀ id, id ∈ connections ↔ id ∈ others) :
    s.prune nodes connections = s.prune more others := by
  have first (id : Text) : nodes.contains id = more.contains id :=
    congrFun (contains_congr sameNodes) id
  have second (id : Text) : connections.contains id = others.contains id :=
    congrFun (contains_congr sameConnections) id
  have orphans : orphan nodes = orphan more := by
    funext n
    unfold orphan
    rw [contains_congr sameNodes]
  simp only [prune, withoutIds, first, second, orphans, contains_congr sameConnections]

/-- The script without what was named and what was stranded by that. -/
def Reduced (c : Catalog) (nodes connections : List Text) (s t : Script) : Prop :=
  ∃ removed, t = s.prune nodes removed ∧ Remainder c nodes connections removed s t

theorem Reduced.nodes_sublist (reduced : Reduced c nodes connections s t) :
    (t.nodes.map Node.id).Sublist (s.nodes.map Node.id) := by
  rcases reduced with ⟨removed, rfl, _⟩
  rw [ids_of_shape (shape_prune nodes removed s)]
  exact List.filter_sublist.map _

theorem Reduced.append (distinct : (s.nodes.map Node.id).Nodup)
    (first : Reduced c nodes connections s t) (second : Reduced c more others t u) :
    Reduced c (nodes ++ more) (connections ++ others) s u := by
  have distinct' := distinct.sublist first.nodes_sublist
  rcases first with ⟨removed, cut, before⟩
  rcases second with ⟨removed', cut', after⟩
  have both : u = s.prune (nodes ++ more) (removed ++ removed') := by rw [cut', cut, prune_append]
  refine ⟨removed ++ removed', both, ?_, after.order.trans before.order, ?_, after.legal, ?_, ?_, ?_⟩
  · rw [both, shape_prune]
  · intro k member
    have old := before.spared k (after.order.subset member)
    have new := after.spared k member
    simp only [Spared, List.mem_append, not_or]
    exact ⟨⟨old.1, new.1⟩, ⟨old.2.1, new.2.1⟩, old.2.2, new.2.2⟩
  · intro kept sub spared legal
    have apart (k : Connection) (member : k ∈ kept) :
        Spared nodes connections k ∧ Spared more others k := by
      have both := spared k member
      simp only [Spared, List.mem_append, not_or] at both
      exact ⟨⟨both.1.1, both.2.1.1, both.2.2.1⟩, both.1.2, both.2.1.2, both.2.2.2⟩
    -- What is legal among all nodes is legal among those that the first deletion left.
    have wider : Legal c t.nodes kept := by
      subst cut'
      apply legal.wider distinct'
      · rw [shape_prune]
        exact List.filter_sublist.map _
      · intro k member
        exact ⟨fun there => mem_prune_ids.mpr ⟨there, (apart k member).2.2.1⟩,
          fun there => mem_prune_ids.mpr ⟨there, (apart k member).2.2.2⟩⟩
    have stays := before.greatest kept sub (fun k member => (apart k member).1) wider
    exact after.greatest kept stays (fun k member => (apart k member).2) legal
  · refine List.nodup_append.mpr ⟨before.once, after.once, ?_⟩
    rintro id old other new rfl
    exact ((before.others id).mp old).2 ((after.others id).mp new).1
  · intro id
    have fewer : u.connections.map Connection.id ⊆ t.connections.map Connection.id :=
      (after.order.map _).subset
    have fewer' : t.connections.map Connection.id ⊆ s.connections.map Connection.id :=
      (before.order.map _).subset
    rw [List.mem_append, before.others, after.others]
    constructor
    · rintro (⟨there, gone⟩ | ⟨there, gone⟩)
      · exact ⟨there, fun left => gone (fewer left)⟩
      · exact ⟨fewer' there, gone⟩
    · rintro ⟨there, gone⟩
      by_cases left : id ∈ t.connections.map Connection.id
      · exact Or.inr ⟨left, gone⟩
      · exact Or.inl ⟨there, left⟩

theorem Reduced.congr (sameNodes : ∀ id, id ∈ nodes ↔ id ∈ more)
    (sameConnections : ∀ id, id ∈ connections ↔ id ∈ others)
    (reduced : Reduced c nodes connections s t) : Reduced c more others s t := by
  rcases reduced with ⟨removed, cut, left⟩
  have spared (k : Connection) : Spared nodes connections k ↔ Spared more others k := by
    simp only [Spared, sameNodes, sameConnections]
  have cut' : t = s.prune more removed := cut.trans (prune_congr sameNodes fun _ => Iff.rfl)
  refine ⟨removed, cut', ?_, left.order, ?_, left.legal, ?_, left.once, left.others⟩
  · rw [cut', shape_prune]
  · exact fun k member => (spared k).mp (left.spared k member)
  · exact fun kept sub free => left.greatest kept sub fun k member => (spared k).mpr (free k member)

theorem Reduced.unique (first : Reduced c nodes connections s t)
    (second : Reduced c nodes connections s u) : t = u := by
  rcases first with ⟨removed, cut, left⟩
  rcases second with ⟨removed', cut', left'⟩
  have same : shape t.nodes = shape u.nodes := left.rest.trans left'.rest.symm
  have sub : t.connections ⊆ u.connections :=
    left'.greatest _ left.order.subset left.spared (left.legal.of_shape same)
  have sub' : u.connections ⊆ t.connections :=
    left.greatest _ left'.order.subset left'.spared (left'.legal.of_shape same.symm)
  have gone (id : Text) : id ∈ removed ↔ id ∈ removed' := by
    have kept : id ∈ t.connections.map Connection.id ↔ id ∈ u.connections.map Connection.id :=
      ⟨fun member => List.map_subset _ sub member, fun member => List.map_subset _ sub' member⟩
    rw [left.others, left'.others, kept]
  rw [cut, cut']
  exact prune_congr (fun _ => Iff.rfl) gone

theorem run_nodes_reduced {given : List (Option Text)} (distinct : (s.nodes.map Node.id).Nodup)
    (links : (s.connections.map Connection.id).Nodup) (ok : Cut.run c s (.nodes given) = .ok t) :
    Reduced c given.reduceOption [] s t := by
  rcases ok_of_map ok with ⟨⟨removal, _⟩, deleted, rfl⟩
  rcases deleteNodes_remainder distinct links deleted with ⟨named, cut, left⟩
  have whole : Reduced c removal.nodes [] s _ := ⟨_, cut, left⟩
  apply whole.congr _ fun _ => Iff.rfl
  intro id
  rw [named, List.reduceOption_mem_iff]

theorem run_reduced {cut : Cut} (distinct : (s.nodes.map Node.id).Nodup)
    (links : (s.connections.map Connection.id).Nodup) (ok : cut.run c s = .ok t) :
    Reduced c cut.namedNodes cut.namedConnections s t := by
  cases cut with
  | node id =>
      have named : ([id] : List (Option Text)).reduceOption = id.toList := by cases id <;> rfl
      have single : Cut.run c s (.nodes [id]) = .ok t := by
        rcases ok_of_map ok with ⟨_, deleted, rfl⟩
        rcases ok_of_bind deleted with ⟨pair, all, same⟩
        cases same
        rw [Cut.run, all]
        rfl
      rw [Cut.namedNodes, ← named]
      exact run_nodes_reduced distinct links single
  | nodes given => exact run_nodes_reduced distinct links ok
  | connection id =>
      rcases ok_of_map ok with ⟨⟨removed, _⟩, deleted, rfl⟩
      rcases deleteConnection_remainder distinct links deleted with ⟨same, left⟩
      exact ⟨removed, same, left⟩

theorem runAll_reduced {cuts : List Cut} (some : cuts ≠ [])
    (distinct : (s.nodes.map Node.id).Nodup) (links : (s.connections.map Connection.id).Nodup)
    (ok : Cut.runAll c s cuts = .ok u) :
    Reduced c (cuts.flatMap Cut.namedNodes) (cuts.flatMap Cut.namedConnections) s u := by
  induction cuts generalizing s with
  | nil => exact absurd rfl some
  | cons cut rest ih =>
      rcases ok_of_bind ok with ⟨t, done, ok⟩
      have first := run_reduced distinct links done
      rw [List.flatMap_cons, List.flatMap_cons]
      by_cases last : rest = []
      · subst last
        cases ok
        simpa using first
      · have fewer : (t.connections.map Connection.id).Nodup := by
          rcases first with ⟨_, _, left⟩
          exact links.sublist (left.order.map _)
        exact first.append distinct (ih last (distinct.sublist first.nodes_sublist) fewer ok)

theorem Clean.legal (clean : s.Clean c) : Legal c s.nodes s.connections := by
  intro k member source target from? to?
  exact ((wired_iff clean.nodes from? to?).mp (clean.wired k member)).2.2

theorem Clean.stranded (clean : s.Clean c) : stranded c s.nodes s.connections = [] := by
  have legal := (legal_iff clean.nodes).mp clean.legal
  unfold NodeScript.stranded
  simp [legal]

theorem Clean.ends (clean : s.Clean c) {k : Connection} (member : k ∈ s.connections) :
    k.fromNode ∈ s.nodes.map Node.id ∧ k.toNode ∈ s.nodes.map Node.id := by
  rcases clean.wired k member with ⟨_, _, from?, to?, _⟩
  exact ⟨from?.named, to?.named⟩

theorem connect_ok {l : LinkDraft} {ids last : IdSupply} {k : Connection}
    (ok : s.connect c l ids = .ok (k, t, last)) :
    t = { s with connections := s.connections ++ [k] } ∧ k.id = ids.draw.1 := by
  rcases ok_of_bind ok with ⟨link, _, ok⟩
  cases ok
  exact ⟨rfl, rfl⟩

theorem deleteConnection_last {k : Connection} (clean : s.Clean c)
    (new : k.id ∉ s.connections.map Connection.id)
    (added : t = { s with connections := s.connections ++ [k] }) :
    ∃ u, t.deleteConnection c (some k.id) = .ok ([k.id], u) ∧
      u.nodes = s.nodes ∧ u.connections = s.connections := by
  subst added
  have others : withoutIds [k.id] (s.connections ++ [k]) = s.connections := by
    have kept : s.connections.filter (fun l => !List.contains [k.id] l.id) = s.connections := by
      apply List.filter_eq_self.mpr
      intro l member
      have apart : l.id ≠ k.id := fun same => new (same ▸ List.mem_map_of_mem member)
      simpa using apart
    rw [withoutIds, List.filter_append, kept]
    simp
  have missing : s.connections.find? (fun l => decide (l.id = k.id)) = none := by
    simpa using new
  have found : Script.requireConnection { s with connections := s.connections ++ [k] } (some k.id) =
      .ok k := by
    simp [requireConnection_iff, connection?, List.find?_append, missing]
  refine ⟨Script.prune [] [k.id] { s with connections := s.connections ++ [k] }, ?_, ?_, others⟩
  · rw [deleteConnection, found, ok_bind, others, clean.stranded]
    rfl
  · rw [prune, funext orphan_nil]
    simp

theorem deleteNode_last {n : Node} (clean : s.Clean c) (new : n.id ∉ s.nodes.map Node.id)
    (childless : ∀ m ∈ s.nodes, m.parentId ≠ some n.id)
    (added : t = { s with nodes := s.nodes ++ [n] }) :
    ∃ u, t.deleteNode c (some n.id) = .ok ([], u) ∧
      u.nodes = s.nodes ∧ u.connections = s.connections := by
  subst added
  have kept : (s.nodes ++ [n]).filter (fun m => !List.contains [n.id] m.id) = s.nodes := by
    have old : s.nodes.filter (fun m => !List.contains [n.id] m.id) = s.nodes := by
      apply List.filter_eq_self.mpr
      intro m member
      have apart : m.id ≠ n.id := fun same => new (same ▸ List.mem_map_of_mem member)
      simpa using apart
    rw [List.filter_append, old]
    simp
  have parents : s.nodes.map (orphan [n.id]) = s.nodes := by
    have same : s.nodes.map (orphan [n.id]) = s.nodes.map fun m => m := by
      apply List.map_congr_left
      intro m member
      have other : some n.id ≠ m.parentId := fun parent => childless m member parent.symm
      cases parent : m.parentId with
      | none => simp [orphan, parent]
      | some id =>
          have apart : id ≠ n.id := fun named => other (named ▸ parent.symm)
          simp [orphan, parent, apart]
    rw [same, List.map_id']
  have missing : s.nodes.find? (fun m => decide (m.id = n.id)) = none := by
    simpa using new
  have found : Script.requireNode { s with nodes := s.nodes ++ [n] } (some n.id) = .ok n := by
    simp [requireNode_iff, node?, List.find?_append, missing]
  have touching : s.connections.filter (fun k =>
      [n.id].contains k.fromNode || [n.id].contains k.toNode) = [] := by
    apply List.filter_eq_nil_iff.mpr
    intro k member
    have ends := clean.ends member
    have apart : k.fromNode ≠ n.id := fun same => new (same ▸ ends.1)
    have apart' : k.toNode ≠ n.id := fun same => new (same ▸ ends.2)
    simp [apart, apart']
  have nothing : withoutIds [] s.connections = s.connections := by simp [withoutIds]
  refine ⟨Script.prune [n.id] [] { s with nodes := s.nodes ++ [n] }, ?_, ?_, nothing⟩
  · have single : ([some n.id].eraseDups.mapM fun id => Node.id <$>
        Script.requireNode { s with nodes := s.nodes ++ [n] } id) = .ok [n.id] := by
      have once : [some n.id].eraseDups = [some n.id] := rfl
      rw [once, List.mapM_cons, found]
      rfl
    rw [deleteNode, deleteNodes, single, ok_bind]
    simp only [touching, kept, List.map_nil, nothing, clean.stranded, List.append_nil]
    rfl
  · rw [prune, kept, parents]

end

end Script

/-- A deletion leaves the greatest legal rest; runs of deletions that name the same leave the same; and
the deletion of what was just added to an audited script gives back its nodes and connections. -/
theorem deletion_remainder (c : Catalog) (s : Script) (distinct : (s.nodes.map Node.id).Nodup)
    (links : (s.connections.map Connection.id).Nodup) :
    (∀ given removal t, s.deleteNodes c given = .ok (removal, t) →
      (∀ id, id ∈ removal.nodes ↔ some id ∈ given) ∧
      Remainder c removal.nodes [] removal.connections s t) ∧
    (∀ id removed t, s.deleteConnection c id = .ok (removed, t) →
      Remainder c [] id.toList removed s t) ∧
    (∀ first second t u, first ≠ [] → second ≠ [] →
      (∀ id, id ∈ first.flatMap Cut.namedNodes ↔ id ∈ second.flatMap Cut.namedNodes) →
      (∀ id, id ∈ first.flatMap Cut.namedConnections ↔ id ∈ second.flatMap Cut.namedConnections) →
      Cut.runAll c s first = .ok t → Cut.runAll c s second = .ok u → t = u) ∧
    (s.audit c = [] →
      (∀ l ids k t last, s.connect c l ids = .ok (k, t, last) →
        ids.draw.1 ∉ s.connections.map Connection.id →
        ∃ u, t.deleteConnection c (some k.id) = .ok ([k.id], u) ∧
          u.nodes = s.nodes ∧ u.connections = s.connections) ∧
      ∀ draft ids n t last, s.addNode c draft ids = .ok (n, t, last) →
        ids.draw.1 ∉ s.nodes.map Node.id → (∀ m ∈ s.nodes, m.parentId ≠ some ids.draw.1) →
        ∃ u, t.deleteNode c (some n.id) = .ok ([], u) ∧
          u.nodes = s.nodes ∧ u.connections = s.connections) := by
  refine ⟨?_, ?_, ?_, ?_⟩
  · intro given removal t ok
    rcases Script.deleteNodes_remainder distinct links ok with ⟨named, _, left⟩
    exact ⟨named, left⟩
  · intro id removed t ok
    exact (Script.deleteConnection_remainder distinct links ok).2
  · intro first second t u some some' sameNodes sameConnections ok ok'
    have left := Script.runAll_reduced some distinct links ok
    have left' := Script.runAll_reduced some' distinct links ok'
    exact (left.congr sameNodes sameConnections).unique left'
  · intro audited
    have clean := Script.audit_eq_nil.mp audited
    constructor
    · intro l ids k t last ok fresh
      rcases Script.connect_ok ok with ⟨added, named⟩
      exact Script.deleteConnection_last clean (named ▸ fresh) added
    · intro draft ids n t last ok fresh childless
      rcases Script.addNode_ok ok with ⟨_, named, _, _, added⟩
      exact Script.deleteNode_last clean (named ▸ fresh) (named ▸ childless) added

def replyCatalog : Catalog where
  templates := [
    { type := "event", category := .events, context := .host, label := "Event"
      outputs := [{ name := "exec", type := .flow }] },
    { type := "bridge", category := .functions, context := .host, label := "Bridge"
      inputs := [{ name := "exec", type := .flow }]
      outputs := [{ name := "exec", type := .flow }]
      bridge := true },
    { type := "read", category := .memory, context := .target, label := "Read"
      inputs := [{ name := "exec", type := .flow }]
      outputs := [{ name := "exec", type := .flow }, { name := "value", type := .any }] },
    { type := "log", category := .output, context := .host, label := "Log"
      inputs := [{ name := "exec", type := .flow }, { name := "message", type := .any }] }]
  faultless := by decide

/-- What is read in the target returns through the bridge that asked for it. -/
def replied : Script :=
  { id := "replied"
    name := "Replied"
    nodes := [
      { id := "start", type := "event" }, { id := "bridge", type := "bridge" },
      { id := "read", type := "read", parentId := some "bridge" }, { id := "log", type := "log" }]
    connections := [
      { id := "c0", fromNode := "start", fromPort := "exec", toNode := "bridge", toPort := "exec" },
      { id := "c1", fromNode := "bridge", fromPort := "exec", toNode := "read", toPort := "exec" },
      { id := "c2", fromNode := "read", fromPort := "value", toNode := "log", toPort := "message" }]
    selectedConnection := some "c2" }

theorem deletion_remainder_replied :
    (replied.nodes.map Node.id).Nodup ∧ (replied.connections.map Connection.id).Nodup ∧
      replied.audit replyCatalog = [] ∧
      (∃ removal t, replied.deleteNodes replyCatalog [some "bridge"] = .ok (removal, t) ∧
        Remainder replyCatalog removal.nodes [] removal.connections replied t) ∧
      (∃ removed t, replied.deleteConnection replyCatalog (some "c1") = .ok (removed, t) ∧
        Remainder replyCatalog [] ["c1"] removed replied t) ∧
      (∃ t, Cut.runAll replyCatalog replied [.node (some "start"), .connection (some "c1")] = .ok t ∧
        Cut.runAll replyCatalog replied [.connection (some "c1"), .nodes [some "start"]] = .ok t) ∧
      (∃ k t last, replied.connect replyCatalog ⟨some "read", some "exec", some "log", some "exec"⟩ {} =
          .ok (k, t, last) ∧
        ∃ u, t.deleteConnection replyCatalog (some k.id) = .ok ([k.id], u) ∧
          u.nodes = replied.nodes ∧ u.connections = replied.connections) ∧
      ∃ n t last, replied.addNode replyCatalog { type := some "read" } {} = .ok (n, t, last) ∧
        ∃ u, t.deleteNode replyCatalog (some n.id) = .ok ([], u) ∧
          u.nodes = replied.nodes ∧ u.connections = replied.connections := by
  have distinct : (replied.nodes.map Node.id).Nodup := by decide
  have links : (replied.connections.map Connection.id).Nodup := by decide
  have clean : replied.audit replyCatalog = [] := by decide +kernel
  rcases deletion_remainder replyCatalog replied distinct links with ⟨nodes, connection, runs, undo⟩
  rcases undo clean with ⟨undoConnect, undoAdd⟩
  rcases ok_of_isOk (by decide +kernel : (replied.deleteNodes replyCatalog [some "bridge"]).isOk = true) with
    ⟨⟨removal, t⟩, deleted⟩
  rcases ok_of_isOk (by decide +kernel : (replied.deleteConnection replyCatalog (some "c1")).isOk = true) with
    ⟨⟨removed, t'⟩, deleted'⟩
  rcases ok_of_isOk (by decide +kernel : (Cut.runAll replyCatalog replied
    [.node (some "start"), .connection (some "c1")]).isOk = true) with ⟨u, first⟩
  rcases ok_of_isOk (by decide +kernel : (Cut.runAll replyCatalog replied
    [.connection (some "c1"), .nodes [some "start"]]).isOk = true) with ⟨u', second⟩
  have same := runs _ _ u u' (by simp) (by simp)
    (by simp [Cut.namedNodes]) (by simp [Cut.namedConnections]) first second
  rcases ok_of_isOk (by decide +kernel : (replied.connect replyCatalog
    ⟨some "read", some "exec", some "log", some "exec"⟩ {}).isOk = true) with ⟨⟨k, v, last⟩, made⟩
  rcases ok_of_isOk (by decide +kernel : (replied.addNode replyCatalog { type := some "read" } {}).isOk = true) with
    ⟨⟨n, v', last'⟩, added⟩
  exact ⟨distinct, links, clean, ⟨removal, t, deleted, (nodes _ _ _ deleted).2⟩,
    ⟨removed, t', deleted', connection _ _ _ deleted'⟩, ⟨u, first, same ▸ second⟩,
    ⟨k, v, last, made, undoConnect _ _ _ _ _ made (by decide)⟩,
    n, v', last', added, undoAdd _ _ _ _ _ added (by decide) (by decide)⟩

end NodeScript
