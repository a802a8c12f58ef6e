import NodeScript.Proofs.Program.Statements
import NodeScript.Proofs.Program.Verdict

namespace NodeScript

/-- Within a template no two inputs and no two outputs share a name. -/
def Catalog.DistinctPorts (c : Catalog) : Prop :=
  ∀ t ∈ c.templates, (t.inputs.map Port.name).Nodup ∧ (t.outputs.map Port.name).Nodup

/-- The connections of a property, each of them once. -/
structure Lists (wires : List Connection) (holds : Connection → Prop) : Prop where
  once : wires.Nodup
  exact : ∀ k, k ∈ wires ↔ holds k

namespace Script

section

variable (c : Catalog) (s : Script)

/-- No input of a node takes two connections. -/
def SingleInputs : Prop :=
  ∀ id t, HasTemplate c s.nodes id t → ∀ port ∈ t.inputs, ∀ k ∈ s.connections, ∀ l ∈ s.connections,
    k.input = (id, port.name) → l.input = (id, port.name) → k = l

def TakesFlow (k : Connection) : Prop :=
  ∃ t port, HasTemplate c s.nodes k.toNode t ∧ t.input? k.toPort = some port ∧ port.type = .flow

def ValueWire (event : Text) (k : Connection) : Prop :=
  s.Active c k ∧ s.Member c event k.toNode ∧ ¬s.TakesFlow c k

/-- An active connection for flow between members. -/
def FlowWire (event : Text) (k : Connection) : Prop :=
  s.Active c k ∧ s.Member c event k.fromNode ∧ s.Member c event k.toNode ∧ s.TakesFlow c k

/-- A connection between members that re-enters a loop. -/
def BackWire (event : Text) (k : Connection) : Prop :=
  (s.Attached k ∧ s.Reenters c k) ∧ s.Member c event k.fromNode ∧ s.Member c event k.toNode

end

end Script

section

variable {c : Catalog} {s : Script} {nodes : List Node} {id : Text} {t : Template}

theorem HasTemplate.listed (has : HasTemplate c nodes id t) : t ∈ c.templates := by
  rcases has with ⟨n, _, _, known⟩
  exact List.mem_of_find?_eq_some known

theorem input?_of_mem {port : Port} (distinct : c.DistinctPorts) (listed : t ∈ c.templates)
    (member : port ∈ t.inputs) : t.input? port.name = some port :=
  find?_key (distinct t listed).1 member

theorem output?_of_mem {port : Port} (distinct : c.DistinctPorts) (listed : t ∈ c.templates)
    (member : port ∈ t.outputs) : t.output? port.name = some port :=
  find?_key (distinct t listed).2 member

theorem flowPorts_eq (distinct : c.DistinctPorts) (listed : t ∈ c.templates) :
    Wiring.flowPorts t = (t.outputs.filter (·.type = .flow)).map Port.name := by
  apply eraseDups_eq_self
  exact (distinct t listed).2.sublist (List.filter_sublist.map Port.name)

theorem TypesMeet.flow {source target : Template} {fromType toType : PortType}
    (meet : TypesMeet source target fromType toType) : fromType = .flow ↔ toType = .flow := by
  rcases meet with fits | ⟨_, noFlow, noFlow'⟩
  · by_cases flow : fromType = .flow ∨ toType = .flow
    · simp only [PortType.fits, flow, if_true, decide_eq_true_eq] at fits
      rw [fits]
    · push Not at flow
      simp [flow.1, flow.2]
  · simp [noFlow, noFlow']

theorem mem_flowPorts {k : Connection} (distinct : c.DistinctPorts) (lawful : s.Lawful c)
    (present : k ∈ s.connections) (has : HasTemplate c s.nodes k.fromNode t) :
    k.fromPort ∈ Wiring.flowPorts t ↔ s.TakesFlow c k := by
  rcases lawful.joined k present with ⟨source, target, output, input, from?, to?, out, into, meet, _⟩
  have same : t = source := has.unique lawful.nodes from?
  subst same
  have sending : k.fromPort ∈ Wiring.flowPorts t ↔ output.type = .flow := by
    rw [flowPorts_eq distinct has.listed]
    simp only [List.mem_map, List.mem_filter, decide_eq_true_eq]
    constructor
    · intro named
      rcases named with ⟨port, ⟨member, flow⟩, named⟩
      have found := output?_of_mem distinct has.listed member
      rw [named, out] at found
      exact Option.some.inj found ▸ flow
    · intro flow
      exact ⟨output, ⟨List.mem_of_find?_eq_some out, flow⟩, Template.output?_name out⟩
  have taking : s.TakesFlow c k ↔ input.type = .flow := by
    constructor
    · intro takes
      rcases takes with ⟨u, port, has', found, flow⟩
      have one : u = target := has'.unique lawful.nodes to?
      subst one
      exact Option.some.inj (found.symm.trans into) ▸ flow
    · exact fun flow => ⟨target, input, to?, into, flow⟩
  rw [sending, taking, meet.flow]

theorem mem_valuePorts {k : Connection} (distinct : c.DistinctPorts) (lawful : s.Lawful c)
    (active : s.Active c k) (has : HasTemplate c s.nodes k.toNode t) :
    k.toPort ∈ (t.inputs.filter Wiring.takesValue).map Port.name ↔ ¬s.TakesFlow c k := by
  rcases lawful.joined k active.1.1 with ⟨_, target, _, input, _, to?, _, into, _⟩
  have same : t = target := has.unique lawful.nodes to?
  subst same
  simp only [List.mem_map, List.mem_filter]
  constructor
  · intro named takes
    rcases named with ⟨port, ⟨member, value⟩, named⟩
    rcases takes with ⟨u, other, has', found, flow⟩
    have one : u = t := has'.unique lawful.nodes has
    subst one
    have own := input?_of_mem distinct has.listed member
    rw [named, found] at own
    rw [← Option.some.inj own] at value
    simp [Wiring.takesValue, flow] at value
  · intro value
    refine ⟨input, ⟨List.mem_of_find?_eq_some into, ?_⟩, Template.input?_name into⟩
    have noFlow : input.type ≠ .flow := fun flow => value ⟨t, input, has, into, flow⟩
    have forward : input.loopBack = false := by
      by_contra back
      exact active.2 ⟨t, input, has, into, Bool.not_eq_false _ ▸ back⟩
    simp [Wiring.takesValue, noFlow, forward]

end

namespace Script

section

variable {c : Catalog} {s : Script} {holds other : Connection → Prop}

open Classical in
noncomputable def those (s : Script) (holds : Connection → Prop) : List Connection :=
  s.connections.filter fun k => decide (holds k)

theorem mem_those {k : Connection} : k ∈ s.those holds ↔ k ∈ s.connections ∧ holds k := by
  simp only [those, List.mem_filter, decide_eq_true_eq]

theorem filter_eq_those {keep : Connection → Bool}
    (same : ∀ k ∈ s.connections, keep k = true ↔ holds k) : s.connections.filter keep = s.those holds := by
  apply List.filter_congr
  intro k member
  rw [Bool.eq_iff_iff]
  simp only [decide_eq_true_eq]
  exact same k member

theorem those_congr (same : ∀ k ∈ s.connections, holds k ↔ other k) : s.those holds = s.those other := by
  apply filter_eq_those
  intro k member
  simp only [decide_eq_true_eq]
  exact same k member

theorem filter_those (keep : Connection → Bool) :
    (s.those holds).filter keep = s.those fun k => holds k ∧ keep k = true := by
  rw [those, List.filter_filter]
  apply filter_eq_those
  intro k _
  simp only [Bool.and_eq_true, decide_eq_true_eq, and_comm]

theorem lists_those (lawful : s.Lawful c) (sub : ∀ k, holds k → k ∈ s.connections) :
    Lists (s.those holds) holds where
  once := (List.Nodup.of_map Connection.id lawful.connections).filter _
  exact := by
    intro k
    rw [mem_those]
    exact and_iff_right_of_imp (sub k)

theorem present_eq : s.connections.filter (Wiring.joined s.nodes) = s.those s.Attached := by
  apply filter_eq_those
  intro k member
  rw [← Wiring.joined_iff, List.mem_filter, and_iff_right member]

theorem active_eq (distinct : (s.nodes.map Node.id).Nodup) :
    (Wiring.ofScript c s).active = s.those (s.Active c) := by
  simp only [Wiring.ofScript, present_eq, filter_those]
  apply those_congr
  intro k _
  rw [Bool.not_eq_true', ← Bool.not_eq_true, Wiring.loopsBack_iff distinct, Active]

theorem loopBack_eq (distinct : (s.nodes.map Node.id).Nodup) :
    (Wiring.ofScript c s).loopBack = s.those fun k => s.Attached k ∧ s.Reenters c k := by
  simp only [Wiring.ofScript, present_eq, filter_those, Wiring.loopsBack_iff distinct]

end

section

variable {c : Catalog} {s : Script} {id : Text} {t : Template}

theorem mem_connections_of_active {k : Connection} (active : k ∈ (Wiring.ofScript c s).active) :
    k ∈ s.connections :=
  List.filter_subset_self _ (List.filter_subset_self _ active)

theorem singleInputs_of_nodup (inputs : (s.connections.map Connection.input).Nodup) : s.SingleInputs c := by
  intro id t _ port _ k present l present' ends ends'
  exact List.inj_on_of_nodup_map inputs present present' (ends.trans ends'.symm)

theorem incoming_ports_nodup (lawful : s.Lawful c) (id : Text) :
    (((Wiring.ofScript c s).incoming id).map Connection.toPort).Nodup := by
  have sub : ((Wiring.ofScript c s).incoming id).Sublist s.connections :=
    List.filter_sublist.trans (List.filter_sublist.trans List.filter_sublist)
  have inputs := lawful.inputs.sublist (sub.map Connection.input)
  have same : ((Wiring.ofScript c s).incoming id).map Connection.input =
      (((Wiring.ofScript c s).incoming id).map Connection.toPort).map fun port => (id, port) := by
    rw [List.map_map]
    apply List.map_congr_left
    intro k member
    have ends := of_decide_eq_true (List.mem_filter.mp member).2
    simp only [Function.comp_apply, Connection.input, ends]
  rw [same] at inputs
  exact List.Nodup.of_map _ inputs

theorem active_of_value {k : Connection} {port : Port} (distinct : c.DistinctPorts)
    (lawful : s.Lawful c) (has : HasTemplate c s.nodes id t) (present : k ∈ s.connections)
    (listed : port ∈ t.inputs.filter Wiring.takesValue) (ends : k.input = (id, port.name)) :
    s.Active c k := by
  obtain ⟨to?, port?⟩ := Prod.mk.inj ends
  obtain ⟨member, value⟩ := List.mem_filter.mp listed
  rcases lawful.joined k present with ⟨_, _, _, _, from', to', _⟩
  refine ⟨⟨present, from'.named, to'.named⟩, ?_⟩
  intro back
  rcases back with ⟨u, other, has', found, back⟩
  have same : u = t := has'.unique lawful.nodes (to? ▸ has)
  subst same
  rw [port?, input?_of_mem distinct has.listed member] at found
  cases found
  simp [Wiring.takesValue, back] at value

end

end Script

end NodeScript
