import NodeScript.Proofs.Program.Wires

/-!
What compiled statements carry. In a lawful script every input that takes a value is supplied by its
one connection, if it has one, and by its own value otherwise; and the connections into the members
are found again in the statements, each of them once, as a reference, as an entry of the flow or as
a return to a loop, and the statements tell of no others.
-/
namespace NodeScript

/-- The value a node gives itself for a name; of several the last one counts. -/
def Node.own? (n : Node) (name : Text) : Option Json := Members.get? n.parameterValues.reverse name

namespace Statement

/-- What the statement refers to: an output, and the input that takes its value. -/
def refs (st : Statement) : List (Text × Text × Text) :=
  st.args.filterMap fun arg =>
    match arg with
    | .ref port _ fromPort _ => some (fromPort, st.node, port)
    | .literal .. => none

/-- Where the statement hands on to: its own output, and the next node. -/
def flows (st : Statement) : List (Text × Text × Text) :=
  st.flow.flatMap fun entry => entry.2.map fun next => (st.node, entry.1, next)

/-- What returns to the statement. -/
def backs (st : Statement) : List (Text × Text) := st.loopBack.map fun source => (source, st.node)

end Statement

namespace Script

section

variable (c : Catalog) (s : Script) (statements : List Statement)

/-- How an input of a node is supplied whose statement has the index. -/
inductive Supplied (n : Node) (t : Template) (index : Nat) (port : Port) : Argument → Prop where
  | literal (free : ∀ k ∈ s.connections, k.input ≠ (n.id, port.name)) :
      Supplied n t index port
        (.literal port.name (((n.own? port.name).or (t.parameters.get? port.name)).getD .null))
  | member {k : Connection} {source : Template} {st : Statement} (present : k ∈ s.connections)
      (ends : k.input = (n.id, port.name)) (has : HasTemplate c s.nodes k.fromNode source)
      (listed : st ∈ statements) (named : st.node = k.fromNode) (earlier : st.index < index) :
      Supplied n t index port
        (.ref port.name st.holder k.fromPort (decide (source.context ≠ t.context)))
  | foreign {k : Connection} {source : Template} (present : k ∈ s.connections)
      (ends : k.input = (n.id, port.name)) (has : HasTemplate c s.nodes k.fromNode source)
      (event : source.isEvent = true) (outside : k.fromNode ∉ statements.map Statement.node) :
      Supplied n t index port
        (.ref port.name (foreignHolder k.fromNode) k.fromPort (decide (source.context ≠ t.context)))

/-- The statements of an event carry the wiring of its members and nothing else. -/
structure Carried (event : Text) : Prop where
  numbered : statements.map Statement.index = List.range statements.length
  once : (statements.map Statement.node).Nodup
  members : ∀ id, id ∈ statements.map Statement.node ↔ s.Member c event id
  ports : ∀ st ∈ statements, ∃ n ∈ s.nodes, ∃ t, n.id = st.node ∧ c.find? n.type = some t ∧
    List.Forall₂ (s.Supplied c statements n t st.index) (t.inputs.filter Wiring.takesValue) st.args ∧
    st.flow.map Prod.fst = (t.outputs.filter (·.type = .flow)).map Port.name
  refs : ∃ wires, Lists wires (s.ValueWire c event) ∧
    (statements.flatMap Statement.refs).Perm (wires.map fun k => (k.fromPort, k.toNode, k.toPort))
  flows : ∃ wires, Lists wires (s.FlowWire c event) ∧
    (statements.flatMap Statement.flows).Perm (wires.map fun k => (k.fromNode, k.fromPort, k.toNode))
  backs : ∃ wires, Lists wires (s.BackWire c event) ∧
    (statements.flatMap Statement.backs).Perm (wires.map fun k => (k.fromNode, k.toNode))

end

end Script

namespace Script

section

variable {c : Catalog} {s : Script} {event : Text} {n : Node} {t : Template} {index : Nat}

theorem flows_perm (distinct : c.DistinctPorts) (lawful : s.Lawful c)
    (topological : s.Topological c event (s.order c event)) (has : HasTemplate c s.nodes n.id t)
    (member : s.Member c event n.id) :
    ((Wiring.ofScript c s).statement c (s.order c event) index n t).flows.Perm
      (((s.those (s.FlowWire c event)).filter fun k => decide (k.fromNode = n.id)).map
        fun k => (k.fromNode, k.fromPort, k.toNode)) := by
  have flat : ((Wiring.ofScript c s).statement c (s.order c event) index n t).flows =
      (Wiring.flowPorts t).flatMap fun port =>
        ((Wiring.ofScript c s).flowTargets (s.order c event) n.id port).map
          fun next => (n.id, port, next) := by
    simp only [Statement.flows, Wiring.statement, List.flatMap_map]
  have each (port : Text) (listed : port ∈ Wiring.flowPorts t) :
      ((Wiring.ofScript c s).flowTargets (s.order c event) n.id port).map
        (fun next => (n.id, port, next)) =
      (((s.those (s.FlowWire c event)).filter fun k => decide (k.fromNode = n.id)).filter
        fun k => decide (k.fromPort = port)).map fun k => (k.fromNode, k.fromPort, k.toNode) := by
    have same : ((Wiring.ofScript c s).outgoing n.id).filter
          (fun k => k.fromPort = port && (s.order c event).contains k.toNode) =
        ((s.those (s.FlowWire c event)).filter fun k => decide (k.fromNode = n.id)).filter
          fun k => decide (k.fromPort = port) := by
      simp only [Wiring.outgoing, active_eq lawful.nodes, filter_those, decide_eq_true_eq,
        Bool.and_eq_true, List.contains_iff_mem, topological.members]
      apply those_congr
      intro k present
      constructor
      · intro wire
        rcases wire with ⟨⟨active, from?⟩, port?, inside⟩
        have takes : s.TakesFlow c k := by
          rw [← mem_flowPorts distinct lawful present (from? ▸ has), port?]
          exact listed
        exact ⟨⟨⟨active, from? ▸ member, inside, takes⟩, from?⟩, port?⟩
      · intro wire
        rcases wire with ⟨⟨⟨active, _, inside, _⟩, from?⟩, port?⟩
        exact ⟨⟨active, from?⟩, port?, inside⟩
    rw [Wiring.flowTargets, List.map_map, same]
    apply List.map_congr_left
    intro k wire
    simp only [List.mem_filter, decide_eq_true_eq] at wire
    simp only [Function.comp_apply, wire.1.2, wire.2]
  have ports : ((Wiring.flowPorts t).map fun port => port).Nodup := by
    rw [List.map_id', flowPorts_eq distinct has.listed]
    exact (distinct t has.listed).2.sublist (List.filter_sublist.map Port.name)
  rw [flat]
  -- Output by output the flow is told once, and every connection for flow starts at an output for it.
  refine gather ports (fun port listed => .of_eq (each port listed)) ?_
  intro k wire
  simp only [List.mem_filter, mem_those, decide_eq_true_eq] at wire
  rcases wire with ⟨⟨present, flow⟩, from?⟩
  rw [List.map_id']
  exact (mem_flowPorts distinct lawful present (from? ▸ has)).mpr flow.2.2.2

theorem backs_eq (lawful : s.Lawful c) (topological : s.Topological c event (s.order c event))
    (member : s.Member c event n.id) :
    ((Wiring.ofScript c s).statement c (s.order c event) index n t).backs =
      ((s.those (s.BackWire c event)).filter fun k => decide (k.toNode = n.id)).map
        fun k => (k.fromNode, k.toNode) := by
  have same : ((Wiring.ofScript c s).reentering n.id).filter
        (fun k => (s.order c event).contains k.fromNode) =
      (s.those (s.BackWire c event)).filter fun k => decide (k.toNode = n.id) := by
    simp only [Wiring.reentering, loopBack_eq lawful.nodes, filter_those, decide_eq_true_eq,
      List.contains_iff_mem, topological.members]
    apply those_congr
    intro k _
    constructor
    · intro wire
      rcases wire with ⟨⟨back, to?⟩, inside⟩
      exact ⟨⟨back, inside, to? ▸ member⟩, to?⟩
    · intro wire
      rcases wire with ⟨⟨back, inside, _⟩, to?⟩
      exact ⟨⟨back, to?⟩, inside⟩
  simp only [Statement.backs, Wiring.statement, Wiring.loopSources, List.map_map, same]
  apply List.map_congr_left
  intro k wire
  simp only [List.mem_filter, decide_eq_true_eq] at wire
  simp only [Function.comp_apply, wire.2]

theorem incoming_value (distinct : c.DistinctPorts) (lawful : s.Lawful c)
    (has : HasTemplate c s.nodes n.id t) (member : s.Member c event n.id) {port : Port}
    (listed : port ∈ t.inputs.filter Wiring.takesValue) :
    ((Wiring.ofScript c s).incoming n.id).filter (fun k => decide (k.toPort = port.name)) =
      ((s.those (s.ValueWire c event)).filter fun k => decide (k.toNode = n.id)).filter
        fun k => decide (k.toPort = port.name) := by
  simp only [Wiring.incoming, active_eq lawful.nodes, filter_those, decide_eq_true_eq]
  apply those_congr
  intro k _
  constructor
  · intro wire
    rcases wire with ⟨⟨active, to?⟩, port?⟩
    have value : ¬s.TakesFlow c k := by
      rw [← mem_valuePorts distinct lawful active (to? ▸ has), port?]
      exact List.mem_map_of_mem listed
    exact ⟨⟨⟨active, to? ▸ member, value⟩, to?⟩, port?⟩
  · intro wire
    rcases wire with ⟨⟨⟨active, _, _⟩, to?⟩, port?⟩
    exact ⟨⟨active, to?⟩, port?⟩

theorem refs_perm (distinct : c.DistinctPorts) (lawful : s.Lawful c)
    (has : HasTemplate c s.nodes n.id t) (member : s.Member c event n.id) {order : List Text} :
    ((Wiring.ofScript c s).statement c order index n t).refs.Perm
      (((s.those (s.ValueWire c event)).filter fun k => decide (k.toNode = n.id)).map
        fun k => (k.fromPort, k.toNode, k.toPort)) := by
  have flat : ((Wiring.ofScript c s).statement c order index n t).refs =
      (t.inputs.filter Wiring.takesValue).flatMap fun port =>
        (((Wiring.ofScript c s).incoming n.id).reverse.find? fun k =>
          decide (k.toPort = port.name)).toList.map fun k => (k.fromPort, n.id, port.name) := by
    simp only [Statement.refs, Wiring.statement, List.filterMap_eq_flatMap_toList, List.flatMap_map]
    apply List.flatMap_congr
    intro port _
    simp only [Wiring.argument]
    cases ((Wiring.ofScript c s).incoming n.id).reverse.find? fun k => decide (k.toPort = port.name) <;>
      rfl
  have each (port : Port) (listed : port ∈ t.inputs.filter Wiring.takesValue) :
      ((((Wiring.ofScript c s).incoming n.id).reverse.find? fun k =>
        decide (k.toPort = port.name)).toList.map fun k => (k.fromPort, n.id, port.name)) =
      (((s.those (s.ValueWire c event)).filter fun k => decide (k.toNode = n.id)).filter
        fun k => decide (k.toPort = port.name)).map fun k => (k.fromPort, k.toNode, k.toPort) := by
    rw [toList_find?_reverse (incoming_ports_nodup lawful n.id),
      incoming_value distinct lawful has member listed]
    apply List.map_congr_left
    intro k wire
    simp only [List.mem_filter, decide_eq_true_eq] at wire
    simp only [wire.1.2, wire.2]
  have ports : ((t.inputs.filter Wiring.takesValue).map Port.name).Nodup :=
    (distinct t has.listed).1.sublist (List.filter_sublist.map Port.name)
  rw [flat]
  refine gather ports (fun port listed => .of_eq (each port listed)) ?_
  intro k wire
  simp only [List.mem_filter, mem_those, decide_eq_true_eq] at wire
  rcases wire with ⟨⟨present, value⟩, to?⟩
  exact (mem_valuePorts distinct lawful value.1 (to? ▸ has)).mpr value.2.2

theorem Topological.earlier {order : List Text} {a b : Text} {i j : Nat}
    (topological : s.Topological c event order) (step : s.Step c a b) (here : order[i]? = some a)
    (there : order[j]? = some b) : i < j := by
  have before := topological.before a b step ((topological.members a).mp (List.mem_of_getElem? here))
    ((topological.members b).mp (List.mem_of_getElem? there))
  rwa [idxOf_of_getElem? topological.distinct here, idxOf_of_getElem? topological.distinct there] at before

theorem supplied (distinct : c.DistinctPorts) (lawful : s.Lawful c)
    (topological : s.Topological c event (s.order c event))
    (nodes : ((Wiring.ofScript c s).statementsFrom c (s.order c event) 0 (s.order c event)).map
      Statement.node = s.order c event)
    (has : HasTemplate c s.nodes n.id t) (placed : (s.order c event)[index]? = some n.id) {port : Port}
    (listed : port ∈ t.inputs.filter Wiring.takesValue) :
    s.Supplied c ((Wiring.ofScript c s).statementsFrom c (s.order c event) 0 (s.order c event)) n t
      index port
      ((Wiring.ofScript c s).argument c (s.order c event) t
        (t.parameters.overlay n.parameterValues) n.id port) := by
  have member : s.Member c event n.id := (topological.members _).mp (List.mem_of_getElem? placed)
  unfold Wiring.argument
  cases wired : ((Wiring.ofScript c s).incoming n.id).reverse.find? (·.toPort = port.name) with
  | none =>
      dsimp only
      rw [get?_overlay]
      apply Supplied.literal
      intro k present ends
      obtain ⟨to?, port?⟩ := Prod.mk.inj ends
      have active := active_of_value distinct lawful has present listed ends
      have arrives : k ∈ ((Wiring.ofScript c s).incoming n.id).reverse :=
        List.mem_reverse.mpr (List.mem_filter.mpr
          ⟨(Wiring.mem_active lawful.nodes).mpr active, decide_eq_true to?⟩)
      have refused := List.find?_eq_none.mp wired k arrives
      exact refused (decide_eq_true port?)
  | some k =>
      have port? : k.toPort = port.name := by simpa using List.find?_some wired
      have arrives := List.mem_filter.mp (List.mem_reverse.mp (List.mem_of_find?_eq_some wired))
      have active := (Wiring.mem_active lawful.nodes).mp arrives.1
      have to? : k.toNode = n.id := of_decide_eq_true arrives.2
      have ends : k.input = (n.id, port.name) := Prod.ext to? port?
      rcases lawful.joined k active.1.1 with ⟨source, _, _, _, from?, _⟩
      have known := (Wiring.templateAt?_iff lawful.nodes).mpr from?
      obtain ⟨m, found, typed⟩ := Wiring.templateAt?_eq_some.mp known
      have own : m.id = k.fromNode := Wiring.node?_id found
      dsimp only
      rw [known, Option.any_some, Wiring.holderOf]
      -- A source that has no place in the order is an event outside; any other has its statement before.
      cases place : (s.order c event).idxOf? k.fromNode with
      | none =>
          have outside : k.fromNode ∉ s.order c event := List.idxOf?_eq_none_iff.mp place
          have entered : s.EventAt c k.fromNode := by
            have source := (to? ▸ member : s.Member c event k.toNode).source ⟨k, active, rfl, rfl⟩
            exact source.resolve_left fun inside => outside ((topological.members _).mpr inside)
          rcases entered with ⟨u, has', event⟩
          have same : u = source := has'.unique lawful.nodes from?
          subst same
          exact .foreign active.1.1 ends from? event (by rw [nodes]; exact outside)
      | some i =>
          obtain ⟨bound, here, _⟩ := List.idxOf?_eq_some_iff.mp place
          have there : (s.order c event)[i]? = some k.fromNode := by
            rw [List.getElem?_eq_getElem bound, here]
          have listed' : (Wiring.ofScript c s).statement c (s.order c event) i m source ∈
              (Wiring.ofScript c s).statementsFrom c (s.order c event) 0 (s.order c event) :=
            Wiring.mem_statementsFrom.mpr
              ⟨i, m, source, own.symm ▸ there, own.symm ▸ found, typed, by rw [Nat.zero_add]⟩
          have earlier : i < index := topological.earlier ⟨k, active, rfl, to?⟩ there placed
          simp only [found, Option.elim_some]
          exact .member active.1.1 ends from? listed' own earlier

theorem mem_compiled {event : Text} {st : Statement}
    (listed : st ∈ (Wiring.ofScript c s).statementsFrom c (s.order c event) 0 (s.order c event)) :
    ∃ i, ∃ n ∈ s.nodes, ∃ t, (s.order c event)[i]? = some n.id ∧ c.find? n.type = some t ∧
      st = (Wiring.ofScript c s).statement c (s.order c event) i n t := by
  obtain ⟨i, n, t, placed, found, typed, same⟩ := Wiring.mem_statementsFrom.mp listed
  rw [Nat.zero_add] at same
  exact ⟨i, n, (lastNode?_mem found).1, t, placed, typed, same⟩

/-- Wires that belong to members each, and that each statement tells of as far as they belong to its
node, are told of once by all statements. -/
theorem compiled_perm {β : Type} {wire : Connection → Prop} {owner : Connection → Text}
    {part : Statement → List β} {view : Connection → β}
    (topological : s.Topological c event (s.order c event))
    (known : ∀ id ∈ s.order c event, ((Wiring.ofScript c s).templateAt? c id).isSome = true)
    (each : ∀ index n t, HasTemplate c s.nodes n.id t → s.Member c event n.id →
      (part ((Wiring.ofScript c s).statement c (s.order c event) index n t)).Perm
        (((s.those wire).filter fun k => decide (owner k = n.id)).map view))
    (owned : ∀ k, wire k → s.Member c event (owner k)) :
    (((Wiring.ofScript c s).statementsFrom c (s.order c event) 0 (s.order c event)).flatMap part).Perm
      ((s.those wire).map view) := by
  have nodes : ((Wiring.ofScript c s).statementsFrom c (s.order c event) 0 (s.order c event)).map
      Statement.node = s.order c event := Wiring.statementsFrom_nodes 0 known
  have once := topological.distinct
  rw [← nodes] at once
  apply gather once
  · intro st listed
    obtain ⟨i, n, present, t, placed, typed, rfl⟩ := mem_compiled listed
    have member := (topological.members _).mp (List.mem_of_getElem? placed)
    exact each i n t ⟨n, present, rfl, typed⟩ member
  · intro k among
    rw [nodes]
    exact (topological.members _).mpr (owned k (mem_those.mp among).2)

theorem statementsFrom_carried (distinct : c.DistinctPorts) (lawful : s.Lawful c)
    (topological : s.Topological c event (s.order c event))
    (known : ∀ id ∈ s.order c event, ((Wiring.ofScript c s).templateAt? c id).isSome = true) :
    s.Carried c ((Wiring.ofScript c s).statementsFrom c (s.order c event) 0 (s.order c event)) event := by
  have nodes : ((Wiring.ofScript c s).statementsFrom c (s.order c event) 0 (s.order c event)).map
      Statement.node = s.order c event := Wiring.statementsFrom_nodes 0 known
  have once := topological.distinct
  rw [← nodes] at once
  refine ⟨?_, once, ?_, ?_, ?_, ?_, ?_⟩
  · have length := congrArg List.length nodes
    rw [List.length_map] at length
    rw [Wiring.statementsFrom_index 0 known, length, List.range_eq_range']
  · intro id
    rw [nodes]
    exact topological.members id
  · intro st listed
    obtain ⟨i, n, present, t, placed, typed, rfl⟩ := mem_compiled listed
    have has : HasTemplate c s.nodes n.id t := ⟨n, present, rfl, typed⟩
    refine ⟨n, present, t, rfl, typed, ?_, ?_⟩
    · apply List.forall₂_map_right_iff.mpr
      apply List.forall₂_same.mpr
      intro port value
      exact supplied distinct lawful topological nodes has placed value
    · have ports := flowPorts_eq distinct has.listed
      simp only [Wiring.statement, List.map_map, ports]
      rfl
  · refine ⟨s.those (s.ValueWire c event), lists_those lawful fun k wire => wire.1.1.1, ?_⟩
    apply compiled_perm topological known
    · intro index n t has member
      exact refs_perm distinct lawful has member
    · exact fun k wire => wire.2.1
  · refine ⟨s.those (s.FlowWire c event), lists_those lawful fun k wire => wire.1.1.1, ?_⟩
    apply compiled_perm topological known
    · intro index n t has member
      exact flows_perm distinct lawful topological has member
    · exact fun k wire => wire.2.1
  · refine ⟨s.those (s.BackWire c event), lists_those lawful fun k wire => wire.1.1.1, ?_⟩
    apply compiled_perm topological known
    · intro index n t _ member
      exact .of_eq (backs_eq lawful topological member)
    · exact fun k wire => wire.2.2

end

end Script

/-- The statements of every event that compiles carry the wiring of its members, each connection
once, and nothing else. -/
theorem compile_carried (c : Catalog) (s : Script) (distinct : c.DistinctPorts) (lawful : s.Lawful c) :
    ∀ r ∈ (compile c s).roots, ∀ statements, r.outcome = .ok statements →
      s.Carried c statements r.event := by
  intro r member statements ok
  have compiled := Script.root_ok member ok
  have verdict := Script.root_verdict lawful.nodes member
  rw [ok] at verdict
  cases verdict with
  | statements typed acyclic topological legal nodes =>
      subst compiled
      apply Script.statementsFrom_carried distinct lawful topological
      intro id placed
      have inside := (topological.members id).mp placed
      have named : r.event ∈ s.nodes.map Node.id := Script.root_named member
      have known := typed id inside
      rw [Script.untyped_iff lawful.nodes (Wiring.member_named named inside)] at known
      exact Option.isSome_iff_ne_none.mpr known

def wiredCatalog : Catalog where
  templates := [
    { type := "event", category := .events, context := .host, label := "Event"
      outputs := [{ name := "exec", type := .flow }, { name := "value", type := .any }] },
    { type := "loop", category := .flow, context := .host, label := "Loop", loop := true
      inputs := [{ name := "exec", type := .flow },
        { name := "next", type := .flow, loopBack := true }]
      outputs := [{ name := "body", type := .flow }, { name := "index", type := .number }] },
    { type := "step", category := .math, context := .target, label := "Step"
      inputs := [{ name := "exec", type := .flow }, { name := "a", type := .any },
        { name := "b", type := .any }, { name := "c", type := .number }]
      outputs := [{ name := "exec", type := .flow }]
      parameters := [("c", .int 1)]
      bridge := true }]
  faultless := by decide

/-- A loop whose step takes the index of the loop, a value of another event and one of its own. -/
def wired : Script :=
  { id := "wired"
    name := "Wired"
    nodes := [
      { id := "start", type := "event" }, { id := "tick", type := "event" },
      { id := "step", type := "step", parameterValues := [("c", .int 3)] },
      { id := "loop", type := "loop" }]
    connections := [
      { id := "c0", fromNode := "start", fromPort := "exec", toNode := "loop", toPort := "exec" },
      { id := "c1", fromNode := "loop", fromPort := "body", toNode := "step", toPort := "exec" },
      { id := "c2", fromNode := "step", fromPort := "exec", toNode := "loop", toPort := "next" },
      { id := "c3", fromNode := "loop", fromPort := "index", toNode := "step", toPort := "a" },
      { id := "c4", fromNode := "tick", fromPort := "value", toNode := "step", toPort := "b" }] }

theorem wired_lawful : wired.Lawful wiredCatalog where
  nodes := by decide
  connections := by decide
  types := by decide
  joined := by
    have distinct : (wired.nodes.map Node.id).Nodup := by decide
    intro k member
    simp only [wired, List.mem_cons, List.not_mem_nil, or_false] at member
    rcases member with rfl | rfl | rfl | rfl | rfl <;>
      exact ⟨_, _, _, _, (hasTemplate_iff distinct).mpr ⟨_, rfl, rfl⟩,
        (hasTemplate_iff distinct).mpr ⟨_, rfl, rfl⟩, rfl, rfl, Or.inl rfl, rfl⟩
  inputs := by decide

theorem compile_carried_wired :
    wiredCatalog.DistinctPorts ∧ wired.Lawful wiredCatalog ∧
      ∃ r ∈ (compile wiredCatalog wired).roots, ∃ statements, r.outcome = .ok statements ∧
        wired.Carried wiredCatalog statements r.event := by
  have distinct : wiredCatalog.DistinctPorts := by
    unfold Catalog.DistinctPorts
    decide
  have compiled : (compile wiredCatalog wired).roots.map Root.ok = [true, true] := by decide +kernel
  have listed : true ∈ (compile wiredCatalog wired).roots.map Root.ok := by
    rw [compiled]
    exact List.mem_cons_self
  obtain ⟨r, member, ok⟩ := List.mem_map.mp listed
  cases outcome : r.outcome with
  | error e =>
      rw [Root.ok, outcome] at ok
      cases ok
  | ok statements =>
      exact ⟨distinct, wired_lawful, r, member, statements, outcome,
        compile_carried wiredCatalog wired distinct wired_lawful r member statements outcome⟩

end NodeScript
