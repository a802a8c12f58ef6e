import NodeScript.Bridging
import NodeScript.Proofs.Closure
import NodeScript.Proofs.Lookup

namespace NodeScript

section

variable {c : Catalog} {nodes : List Node} {live : List Connection} {id : Text}

def Feeds (c : Catalog) (nodes : List Node) (live : List Connection) (a b : Text) : Prop :=
  Follows (edges live) (carries c nodes) a b

theorem mem_bridges {b : Text} :
    b ∈ bridges c nodes ↔ ∃ n ∈ nodes, c.isBridge n.type = true ∧ n.id = b := by
  simp [bridges, and_assoc]

theorem mem_edges {a b : Text} : (a, b) ∈ edges live ↔ ∃ k ∈ live, k.fromNode = a ∧ k.toNode = b := by
  simp [edges, Connection.edge]

theorem mem_bridgedTargets :
    id ∈ bridgedTargets c nodes live ↔
      ∃ b ∈ bridges c nodes, Relation.TransGen (Feeds c nodes live) b id := by
  simp only [bridgedTargets, List.mem_eraseDups, List.mem_map, List.mem_filter, Bool.and_eq_true,
    decide_eq_true_eq, mem_reach]
  constructor
  · rintro ⟨⟨a, b⟩, ⟨edge, ⟨first, bridge, path⟩, may⟩, rfl⟩
    exact ⟨first, bridge, Relation.TransGen.tail' path ⟨edge, may⟩⟩
  · rintro ⟨first, bridge, path⟩
    rcases Relation.TransGen.tail'_iff.mp path with ⟨a, before, edge, may⟩
    exact ⟨(a, id), ⟨edge, ⟨first, bridge, before⟩, may⟩, rfl⟩

theorem bridgedTargets_lift {others : List Node} {more : List Connection} (rename : Text → Text)
    (bridge : ∀ b ∈ bridges c nodes, rename b ∈ bridges c others)
    (carry : ∀ b, carries c nodes b = true → carries c others (rename b) = true)
    (link : ∀ k ∈ live, carries c nodes k.toNode = true →
      (rename k.fromNode, rename k.toNode) ∈ edges more)
    (fed : id ∈ bridgedTargets c nodes live) : rename id ∈ bridgedTargets c others more := by
  rcases mem_bridgedTargets.mp fed with ⟨b, member, path⟩
  apply mem_bridgedTargets.mpr
  refine ⟨rename b, bridge b member, path.lift rename ?_⟩
  rintro a d ⟨edge, may⟩
  rcases mem_edges.mp edge with ⟨k, present, rfl, rfl⟩
  exact ⟨link k present may, carry _ may⟩

theorem bridgedTargets_mono {others : List Node} {more : List Connection}
    (bridge : bridges c nodes ⊆ bridges c others)
    (carry : ∀ b, carries c nodes b = true → carries c others b = true) (sub : live ⊆ more) :
    bridgedTargets c nodes live ⊆ bridgedTargets c others more := by
  intro id fed
  apply bridgedTargets_lift (fun b => b) bridge carry ?_ fed
  intro k present _
  exact mem_edges.mpr ⟨k, sub present, rfl, rfl⟩

theorem bridgedTargets_perm {more : List Connection} (perm : live.Perm more) (id : Text) :
    id ∈ bridgedTargets c nodes live ↔ id ∈ bridgedTargets c nodes more :=
  ⟨fun fed => bridgedTargets_mono (List.Subset.refl _) (fun _ may => may) perm.subset fed,
    fun fed => bridgedTargets_mono (List.Subset.refl _) (fun _ may => may) perm.symm.subset fed⟩

def shape (nodes : List Node) : List (Text × Text) := nodes.map fun n => (n.id, n.type)

theorem ids_of_shape {others : List Node} (same : shape nodes = shape others) :
    nodes.map Node.id = others.map Node.id := by
  simpa [shape, Function.comp_def] using congrArg (List.map Prod.fst) same

theorem bridges_of_shape {others : List Node} (same : shape nodes = shape others) :
    bridges c nodes = bridges c others := by
  have named (l : List Node) :
      bridges c l = ((shape l).filter fun e => c.isBridge e.2).map (·.1) := by
    simp [bridges, shape, List.filter_map, Function.comp_def]
  rw [named, named, same]

theorem lastNode?_type_of_shape {others : List Node} (same : shape nodes = shape others) (id : Text) :
    (lastNode? nodes id).map (·.type) = (lastNode? others id).map (·.type) := by
  have named (l : List Node) :
      (lastNode? l id).map (·.type) = ((shape l).reverse.find? fun e => e.1 = id).map (·.2) := by
    simp [lastNode?, shape, ← List.map_reverse, List.find?_map, Function.comp_def]
  rw [named, named, same]

theorem carries_eq_type :
    carries c nodes id = ((lastNode? nodes id).map (·.type)).any fun type =>
      (c.find? type).any fun t => t.context = .target && !t.bridge := by
  cases found : lastNode? nodes id <;>
    simp [carries, found, Catalog.carriesReply, Catalog.nodeTemplate?]

theorem carries_of_shape {others : List Node} (same : shape nodes = shape others) (id : Text) :
    carries c nodes id = carries c others id := by
  rw [carries_eq_type, carries_eq_type, lastNode?_type_of_shape same]

theorem bridgedTargets_of_shape {others : List Node} (same : shape nodes = shape others) :
    bridgedTargets c nodes live = bridgedTargets c others live := by
  have carry : carries c nodes = carries c others := funext (carries_of_shape same)
  simp only [bridgedTargets, bridges_of_shape same, carry]

theorem carries_iff :
    carries c nodes id = true ↔ ∃ n t, lastNode? nodes id = some n ∧ c.find? n.type = some t ∧
      t.context = .target ∧ t.bridge = false := by
  simp [carries, Catalog.carriesReply, Catalog.nodeTemplate?, Option.any_eq_true]

theorem crossingAllowed_iff {source target : Template} {bridged : List Text} :
    crossingAllowed id source target bridged = true ↔
      source.context = target.context ∨ source.bridge = true ∨ target.bridge = true ∨
        (source.context = .target ∧ id ∈ bridged) := by
  simp [crossingAllowed, or_assoc]

theorem crossingAllowed_of_fed {other : Text} {source target : Template} {bridged more : List Text}
    (fed : id ∈ bridged → other ∈ more) (allowed : crossingAllowed id source target bridged = true) :
    crossingAllowed other source target more = true := by
  rw [crossingAllowed_iff] at allowed ⊢
  rcases allowed with same | source | target | ⟨context, member⟩
  · exact Or.inl same
  · exact Or.inr (Or.inl source)
  · exact Or.inr (Or.inr (Or.inl target))
  · exact Or.inr (Or.inr (Or.inr ⟨context, fed member⟩))

theorem breaksContext_iff {bridged : List Text} {k : Connection} :
    breaksContext c nodes bridged k = true ↔ ∃ fromNode toNode source target,
      lastNode? nodes k.fromNode = some fromNode ∧ lastNode? nodes k.toNode = some toNode ∧
      c.find? fromNode.type = some source ∧ c.find? toNode.type = some target ∧
      crossingAllowed k.fromNode source target bridged = false := by
  simp only [breaksContext, Catalog.nodeTemplate?]
  constructor
  · intro broken
    split at broken
    · rename_i fromNode toNode first second
      split at broken
      · rename_i source target known known'
        rcases lastNode?_mem first with ⟨_, named⟩
        rw [named] at broken
        exact ⟨fromNode, toNode, source, target, first, second, known, known', by simpa using broken⟩
      · cases broken
    · cases broken
  · rintro ⟨fromNode, toNode, source, target, first, second, known, known', refused⟩
    rcases lastNode?_mem first with ⟨_, named⟩
    simp [first, second, known, known', named, refused]

theorem breaksContext_of_feeds (distinct : (nodes.map Node.id).Nodup) {bridged : List Text}
    {k : Connection} (may : carries c nodes k.toNode = true)
    (source : k.fromNode ∈ bridges c nodes ∨ carries c nodes k.fromNode = true) :
    breaksContext c nodes bridged k = false := by
  apply Bool.eq_false_iff.mpr
  intro broken
  obtain ⟨fromNode, toNode, from?, to?, first, second, known, known', refused⟩ :=
    breaksContext_iff.mp broken
  have notAllowed := mt crossingAllowed_iff.mpr (Bool.eq_false_iff.mp refused)
  simp only [not_or] at notAllowed
  rcases source with bridge | carrier
  · rcases mem_bridges.mp bridge with ⟨n, member, isBridge, named⟩
    have same : n = fromNode := by
      rw [← named, lastNode?_of_mem distinct member] at first
      exact Option.some.inj first
    subst same
    simp only [Catalog.isBridge, known, Option.any_some] at isBridge
    exact notAllowed.2.1 isBridge
  · rcases carries_iff.mp carrier with ⟨n, t, found, template, context, _⟩
    rcases carries_iff.mp may with ⟨n', t', found', template', context', _⟩
    cases found.symm.trans first
    cases found'.symm.trans second
    cases template.symm.trans known
    cases template'.symm.trans known'
    exact notAllowed.1 (context.trans context'.symm)

theorem bridgedTargets_kept (distinct : (nodes.map Node.id).Nodup) {kept : List Connection}
    (rest : ∀ k ∈ live, carries c nodes k.toNode = true →
      breaksContext c nodes (bridgedTargets c nodes live) k = false → k ∈ kept) :
    bridgedTargets c nodes live ⊆ bridgedTargets c nodes kept := by
  intro id fed
  rcases mem_bridgedTargets.mp fed with ⟨b, bridge, path⟩
  refine mem_bridgedTargets.mpr ⟨b, bridge, ?_⟩
  clear fed
  have stays {a d : Text} (source : a ∈ bridges c nodes ∨ carries c nodes a = true)
      (step : Feeds c nodes live a d) : Feeds c nodes kept a d := by
    rcases mem_edges.mp step.1 with ⟨k, present, rfl, rfl⟩
    exact ⟨mem_edges.mpr ⟨k, rest k present step.2 (breaksContext_of_feeds distinct step.2 source),
      rfl, rfl⟩, step.2⟩
  induction path with
  | single step => exact .single (stays (Or.inl bridge) step)
  | tail before step ih =>
      rcases Relation.TransGen.tail'_iff.mp before with ⟨_, _, last⟩
      exact ih.tail (stays (Or.inr last.2) step)

theorem breaksContext_of_shape {others : List Node} (same : shape nodes = shape others)
    {bridged : List Text} {k : Connection} :
    breaksContext c nodes bridged k = breaksContext c others bridged k := by
  have carried {l m : List Node} (same : shape l = shape m) (broken : breaksContext c l bridged k = true) :
      breaksContext c m bridged k = true := by
    obtain ⟨fromNode, toNode, source, target, first, second, known, known', refused⟩ :=
      breaksContext_iff.mp broken
    have fromType := lastNode?_type_of_shape same k.fromNode
    have toType := lastNode?_type_of_shape same k.toNode
    rw [first] at fromType
    rw [second] at toType
    rcases Option.map_eq_some_iff.mp fromType.symm with ⟨fromNode', first', typed⟩
    rcases Option.map_eq_some_iff.mp toType.symm with ⟨toNode', second', typed'⟩
    exact breaksContext_iff.mpr ⟨fromNode', toNode', source, target, first', second',
      typed ▸ known, typed' ▸ known', refused⟩
  exact Bool.eq_iff_iff.mpr ⟨carried same, carried same.symm⟩

theorem illegal_of_shape {others : List Node} (same : shape nodes = shape others) :
    illegal c nodes live = illegal c others live := by
  rw [illegal, illegal, bridgedTargets_of_shape same]
  exact List.filter_congr fun k _ => breaksContext_of_shape same

theorem withoutIds_append (first second : List Text) :
    withoutIds (first ++ second) live = withoutIds second (withoutIds first live) := by
  simp only [withoutIds, List.filter_filter]
  apply List.filter_congr
  intro k _
  simp [Bool.and_comm]

theorem mem_withoutIds {ids : List Text} {k : Connection} :
    k ∈ withoutIds ids live ↔ k ∈ live ∧ k.id ∉ ids := by
  simp [withoutIds]

/-- When the stranded connections are gone, the others keep the context rule among themselves. -/
theorem illegal_withoutIds_stranded :
    illegal c nodes (withoutIds (stranded c nodes live) live) = [] := by
  fun_induction stranded c nodes live with
  | case1 live found none =>
      have legal : illegal c nodes live = [] := List.map_eq_nil_iff.mp none
      simpa [withoutIds] using legal
  | case2 live found some ih =>
      rw [withoutIds_append]
      exact ih

theorem illegal_eq_nil :
    illegal c nodes live = [] ↔
      ∀ k ∈ live, breaksContext c nodes (bridgedTargets c nodes live) k = false := by
  simp [illegal, List.filter_eq_nil_iff]

end

end NodeScript
