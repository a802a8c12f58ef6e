import NodeScript.Proofs.IdSupply
import NodeScript.Proofs.Script.Rules

namespace NodeScript

theorem ok_bind {ε α β : Type} {a : α} {next : α → Except ε β} : (Except.ok a >>= next) = next a := rfl

theorem ok_of_bind {ε α β : Type} {first : Except ε α} {next : α → Except ε β} {b : β}
    (ok : (first >>= next) = .ok b) : ∃ a, first = .ok a ∧ next a = .ok b := by
  rcases first with e | a
  · cases ok
  · exact ⟨a, rfl, ok⟩

theorem ok_of_map {ε α β : Type} {result : Except ε α} {pick : α → β} {b : β}
    (ok : pick <$> result = .ok b) : ∃ a, result = .ok a ∧ pick a = b := by
  cases result with
  | error e => cases ok
  | ok a => exact ⟨a, rfl, Except.ok.inj ok⟩

theorem ok_of_mapError {ε δ α : Type} {result : Except ε α} {tell : ε → δ} {a : α}
    (ok : result.mapError tell = .ok a) : result = .ok a := by
  cases result with
  | error e => cases ok
  | ok b => exact congrArg Except.ok (Except.ok.inj ok)

theorem ok_of_isOk {ε α : Type} {result : Except ε α} (ok : result.isOk = true) :
    ∃ a, result = .ok a := by
  cases result with
  | error e => cases ok
  | ok a => exact ⟨a, rfl⟩

/-- What a result gives, or what was there before if it is a failure. -/
def orSame {ε α β : Type} (before : β) (pick : α → β) : Except ε α → β
  | .ok a => pick a
  | .error _ => before

theorem orSame_of {ε α β : Type} {before : β} {pick : α → β} {result : Except ε α}
    {motive : β → Prop} (same : motive before) (ok : ∀ a, result = .ok a → motive (pick a)) :
    motive (orSame before pick result) := by
  cases result with
  | error => exact same
  | ok a => exact ok a rfl

namespace Catalog

theorem templateOf_ok {c : Catalog} {n : Node} {t : Template} :
    c.templateOf n = .ok t ↔ c.find? n.type = some t := by
  unfold templateOf nodeTemplate?
  cases c.find? n.type <;> simp

theorem find?_type {c : Catalog} {type : Text} {t : Template} (found : c.find? type = some t) :
    t.type = type := by
  simpa using List.find?_some found

theorem template_iff {c : Catalog} {type : Option Text} {t : Template} :
    c.template type = .ok t ↔ type.bind c.find? = some t := by
  unfold template
  cases type.bind c.find? <;> simp

theorem template_ok {c : Catalog} {type : Option Text} {t : Template}
    (ok : c.template type = .ok t) : c.find? t.type = some t := by
  obtain ⟨given, rfl, looked⟩ := Option.bind_eq_some_iff.mp (template_iff.mp ok)
  rw [find?_type looked]
  exact looked

end Catalog

namespace Template

theorem input?_name {t : Template} {name : Text} {port : Port} (found : t.input? name = some port) :
    port.name = name := by
  simpa using List.find?_some found

theorem output?_name {t : Template} {name : Text} {port : Port} (found : t.output? name = some port) :
    port.name = name := by
  simpa using List.find?_some found

end Template

namespace Script

variable {c : Catalog} {ids more : IdSupply} {s t : Script}

/-- A well-formed script whose ids the supply will not give again. -/
structure Sound (c : Catalog) (ids : IdSupply) (s : Script) : Prop where
  formed : s.WellFormed c
  nodes : ∀ id ∈ s.nodes.map Node.id, ids.Spent id
  connections : ∀ id ∈ s.connections.map Connection.id, ids.Spent id

/-- What every change keeps: the id of the script, and that it is sound. -/
structure Kept (c : Catalog) (ids more : IdSupply) (s t : Script) : Prop where
  id : t.id = s.id
  later : ids ≤ more
  sound : s.Sound c ids → t.Sound c more

theorem Kept.trans {last : IdSupply} {u : Script} (first : Kept c ids more s t)
    (second : Kept c more last t u) : Kept c ids last s u where
  id := second.id.trans first.id
  later := IdSupply.le_trans first.later second.later
  sound := fun sound => second.sound (first.sound sound)

theorem Sound.mono (later : ids ≤ more) (sound : s.Sound c ids) : s.Sound c more where
  formed := sound.formed
  nodes := fun id member => (sound.nodes id member).mono later
  connections := fun id member => (sound.connections id member).mono later

theorem Kept.of_shape (later : ids ≤ more) (id : t.id = s.id) (same : shape t.nodes = shape s.nodes)
    (links : t.connections = s.connections)
    (parents : s.WellFormed c → ∀ n ∈ t.nodes, ∀ parent, n.parentId = some parent →
      parent ∈ t.nodes.map Node.id) : Kept c ids more s t where
  id := id
  later := later
  sound := fun sound => Sound.mono later
    { formed := sound.formed.of_shape same links (parents sound.formed)
      nodes := by
        rw [ids_of_shape same]
        exact sound.nodes
      connections := links ▸ sound.connections }

theorem Kept.of_graph (later : ids ≤ more) (id : t.id = s.id) (nodes : t.nodes = s.nodes)
    (links : t.connections = s.connections) : Kept c ids more s t :=
  .of_shape later id (congrArg shape nodes) links fun formed => nodes ▸ formed.parents

theorem Kept.refl : Kept c ids ids s s := .of_graph (IdSupply.le_refl ids) rfl rfl rfl

theorem Sound.extend (added : List Node) (links : List Connection)
    (nodes : t.nodes = s.nodes ++ added) (connections : t.connections = s.connections ++ links)
    (newNodes : IdSupply.New ids more (added.map Node.id))
    (newLinks : IdSupply.New ids more (links.map Connection.id))
    (known : ∀ n ∈ added, c.knows n.type = true)
    (parents : ∀ n ∈ added, ∀ parent, n.parentId = some parent → parent ∈ t.nodes.map Node.id)
    (joined : ∀ k ∈ links, Joins c t.nodes k)
    (inputs : ((s.connections ++ links).map Connection.input).Nodup)
    (legal : ∀ k ∈ links, breaksContext c t.nodes (t.bridged c) k = false)
    (sound : s.Sound c ids) : t.Sound c more := by
  have fresh : ((s.nodes ++ added).map Node.id).Nodup := by
    rw [List.map_append]
    exact newNodes.append sound.formed.nodes sound.nodes
  have freshLinks : ((s.connections ++ links).map Connection.id).Nodup := by
    rw [List.map_append]
    exact newLinks.append sound.formed.connections sound.connections
  refine ⟨sound.formed.extend nodes connections fresh known parents freshLinks joined inputs legal,
    ?_, ?_⟩
  · rw [nodes, List.map_append]
    exact newNodes.spent_append sound.nodes
  · rw [connections, List.map_append]
    exact newLinks.spent_append sound.connections

theorem node?_isSome {id : Text} : (s.node? id).isSome = true ↔ id ∈ s.nodes.map Node.id := by
  simp [node?]

theorem connection?_isSome {id : Text} :
    (s.connection? id).isSome = true ↔ id ∈ s.connections.map Connection.id := by
  simp [connection?]

theorem requireNode_iff {id : Option Text} {n : Node} :
    s.requireNode id = .ok n ↔ id.bind s.node? = some n := by
  unfold requireNode
  cases id.bind s.node? <;> simp

theorem requireConnection_iff {id : Option Text} {k : Connection} :
    s.requireConnection id = .ok k ↔ id.bind s.connection? = some k := by
  unfold requireConnection
  cases id.bind s.connection? <;> simp

theorem requireNode_ok {id : Option Text} {n : Node} (ok : s.requireNode id = .ok n) :
    n ∈ s.nodes ∧ id = some n.id := by
  obtain ⟨given, rfl, looked⟩ := Option.bind_eq_some_iff.mp (requireNode_iff.mp ok)
  obtain ⟨member, rfl⟩ := node?_mem looked
  exact ⟨member, rfl⟩

theorem requireConnection_ok {id : Option Text} {k : Connection} (ok : s.requireConnection id = .ok k) :
    k ∈ s.connections ∧ id = some k.id := by
  obtain ⟨given, rfl, looked⟩ := Option.bind_eq_some_iff.mp (requireConnection_iff.mp ok)
  obtain ⟨member, rfl⟩ := connection?_mem looked
  exact ⟨member, rfl⟩

theorem addNode_ok {draft : NodeDraft} {n : Node} (ok : s.addNode c draft ids = .ok (n, t, more)) :
    c.knows n.type = true ∧ n.id = ids.draw.1 ∧ more = ids.draw.2 ∧
      (∀ parent, n.parentId = some parent → parent ∈ s.nodes.map Node.id) ∧
      t = { s with nodes := s.nodes ++ [n] } := by
  obtain ⟨template, found, ok⟩ := ok_of_bind ok
  have known : c.knows template.type = true := knows_iff.mpr ⟨template, Catalog.template_ok found⟩
  cases given : draft.parentId with
  | none =>
      simp only [given] at ok
      cases ok
      exact ⟨known, rfl, rfl, by simp [NodeDraft.node, given], rfl⟩
  | some parent =>
      simp only [given] at ok
      obtain ⟨m, there, ok⟩ := ok_of_bind ok
      obtain ⟨member, named⟩ := requireNode_ok there
      cases ok
      refine ⟨known, rfl, rfl, ?_, rfl⟩
      intro other same
      simp only [NodeDraft.node, given, Option.some.injEq] at same named
      rw [← same, named]
      exact List.mem_map_of_mem member

theorem addNode_kept {draft : NodeDraft} {n : Node} (ok : s.addNode c draft ids = .ok (n, t, more)) :
    Kept c ids more s t := by
  obtain ⟨known, named, rfl, parents, rfl⟩ := addNode_ok ok
  refine ⟨rfl, IdSupply.le_draw ids, fun sound => ?_⟩
  refine sound.extend [n] [] rfl (List.append_nil _).symm ?_
    (IdSupply.new_nil (IdSupply.le_draw ids)) (by simpa using known) ?_ (by simp) ?_ (by simp)
  · exact IdSupply.new_drawn named
  · intro m member parent isParent
    obtain rfl := List.mem_singleton.mp member
    simp only [List.map_append, List.mem_append]
    exact Or.inl (parents parent isParent)
  · simpa using sound.formed.inputs

theorem shape_replaceNode {id : Text} {change : Node → Node} {nodes : List Node}
    (named : ∀ n, (change n).id = n.id) (typed : ∀ n, (change n).type = n.type) :
    shape (replaceNode id change nodes) = shape nodes := by
  induction nodes with
  | nil => rfl
  | cons n rest ih =>
      unfold replaceNode
      split
      · simp [shape, named, typed]
      · simpa [shape] using ih

theorem mem_replaceNode {id : Text} {change : Node → Node} {nodes : List Node} {n : Node}
    (member : n ∈ replaceNode id change nodes) : n ∈ nodes ∨ ∃ m ∈ nodes, n = change m := by
  induction nodes with
  | nil => cases member
  | cons m rest ih =>
      unfold replaceNode at member
      split at member
      · rcases List.mem_cons.mp member with rfl | later
        · exact Or.inr ⟨m, List.mem_cons_self, rfl⟩
        · exact Or.inl (List.mem_cons_of_mem _ later)
      · rcases List.mem_cons.mp member with rfl | later
        · exact Or.inl List.mem_cons_self
        · rcases ih later with old | ⟨m', present, rfl⟩
          · exact Or.inl (List.mem_cons_of_mem _ old)
          · exact Or.inr ⟨m', List.mem_cons_of_mem _ present, rfl⟩

theorem map_kept (change : Node → Node) (named : ∀ n, (change n).id = n.id)
    (typed : ∀ n, (change n).type = n.type) (parent : ∀ n, (change n).parentId = n.parentId) :
    Kept c ids ids s { s with nodes := s.nodes.map change } := by
  have same : shape (s.nodes.map change) = shape s.nodes := by simp [shape, named, typed]
  refine .of_shape (IdSupply.le_refl ids) rfl same rfl ?_
  intro formed n member given isParent
  rw [ids_of_shape same]
  obtain ⟨origin, present, rfl⟩ := List.mem_map.mp member
  exact formed.parents origin present given (parent origin ▸ isParent)

theorem changeNode_kept {id : Option Text} (change : Node → Node) {n : Node}
    (named : ∀ n, (change n).id = n.id) (typed : ∀ n, (change n).type = n.type)
    (parent : ∀ n, (change n).parentId = n.parentId) (ok : s.changeNode id change = .ok (n, t)) :
    Kept c ids ids s t := by
  obtain ⟨m, found, ok⟩ := ok_of_bind ok
  cases ok
  refine .of_shape (IdSupply.le_refl ids) rfl (shape_replaceNode named typed) rfl ?_
  intro formed other member given isParent
  rw [ids_of_shape (shape_replaceNode named typed)]
  rcases mem_replaceNode member with old | ⟨origin, present, rfl⟩
  · exact formed.parents other old given isParent
  · exact formed.parents origin present given (parent origin ▸ isParent)

theorem updateNode_kept {id : Option Text} {change : NodeChange} {n : Node}
    (ok : s.updateNode id change = .ok (n, t)) : Kept c ids ids s t :=
  changeNode_kept change.apply (fun _ => rfl) (fun _ => rfl) (fun _ => rfl) ok

theorem renameNode_kept {id : Option Text} {label : Text} {n : Node}
    (ok : s.renameNode id label = .ok (n, t)) : Kept c ids ids s t :=
  changeNode_kept (fun n => { n with label := labelOf label }) (fun _ => rfl) (fun _ => rfl) (fun _ => rfl) ok

theorem addVariable_kept (draft : VariableDraft) :
    Kept c ids (s.addVariable draft ids).2.2 s (s.addVariable draft ids).2.1 :=
  .of_graph (IdSupply.le_draw ids) rfl rfl rfl

theorem deleteVariable_kept {id : Option Text} (ok : s.deleteVariable id = .ok t) :
    Kept c ids ids s t := by
  unfold deleteVariable at ok
  split at ok
  · cases ok
    exact .of_graph (IdSupply.le_refl ids) rfl rfl rfl
  · cases ok

theorem setName_fields {name : Text} (ok : s.setName name = .ok t) : ∃ name, t = { s with name } := by
  unfold setName at ok
  split at ok
  · cases ok
    exact ⟨_, rfl⟩
  · cases ok

theorem setName_kept {name : Text} (ok : s.setName name = .ok t) : Kept c ids ids s t := by
  obtain ⟨_, rfl⟩ := setName_fields ok
  exact .of_graph (IdSupply.le_refl ids) rfl rfl rfl

end Script

end NodeScript
