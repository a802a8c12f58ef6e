import NodeScript.Proofs.Program.Alike
import NodeScript.Proofs.Program.Wires
import NodeScript.Proofs.Script.Deletions

/-!
What the answer to an event depends on. Upstream of an event is what leads to one of its members, along
connections of any kind. A script that is cut down to that, or to more that holds the sources of all it
holds, wires the members as before: the nodes that feed them are there, and so is every bridge behind
them. So the event gets the same answer, whatever else the script contains.
-/
namespace NodeScript

namespace Script

def Links (s : Script) (a b : Text) : Prop := ∃ k ∈ s.connections, k.fromNode = a ∧ k.toNode = b

/-- A member of the event can be reached. -/
def Upstream (c : Catalog) (s : Script) (event id : Text) : Prop :=
  ∃ member, s.Member c event member ∧ Relation.ReflTransGen s.Links id member

/-- The listed nodes and the connections between them, in their order. -/
def restrict (s : Script) (ids : List Text) : Script :=
  { s with
    nodes := s.nodes.filter fun n => ids.contains n.id
    connections := s.connections.filter fun k => ids.contains k.fromNode && ids.contains k.toNode }

/-- The nodes upstream of an event. -/
def upstreamIds (c : Catalog) (s : Script) (event : Text) : List Text :=
  let found := reach ((edges s.connections).map Prod.swap) (fun _ => true)
    ((Wiring.ofScript c s).members c event)
  (s.nodes.map (·.id)).filter found.contains

def upstream (c : Catalog) (s : Script) (event : Text) : Script := s.restrict (s.upstreamIds c event)

/-- The list holds every member and with the target of a connection its source. -/
structure Covers (c : Catalog) (s : Script) (event : Text) (ids : List Text) : Prop where
  members : ∀ id, s.Member c event id → id ∈ ids
  sources : ∀ k, s.Attached k → k.toNode ∈ ids → k.fromNode ∈ ids

section

variable {c : Catalog} {s : Script} {event id : Text} {ids : List Text} {k : Connection}

theorem restrict_pick (keep : Text → Bool) :
    ((s.restrict ids).nodes.filter fun n => keep n.type).map Node.id =
      ((s.nodes.filter fun n => keep n.type).map Node.id).filter ids.contains := by
  rw [restrict, List.filter_filter, List.filter_map, List.filter_filter]
  congr 1
  apply List.filter_congr
  intro n _
  rw [Bool.and_comm, Function.comp_apply]

theorem restrict_names : (s.restrict ids).nodes.map Node.id =
    (s.nodes.map Node.id).filter ids.contains := by
  simpa using s.restrict_pick fun _ => true

theorem mem_bridges_restrict :
    id ∈ bridges c (s.restrict ids).nodes ↔ id ∈ bridges c s.nodes ∧ id ∈ ids := by
  rw [bridges, restrict_pick, List.mem_filter, List.contains_iff_mem, bridges]

theorem mem_events_restrict :
    event ∈ (s.restrict ids).events c ↔ event ∈ s.events c ∧ event ∈ ids := by
  rw [events, restrict_pick, List.mem_filter, List.contains_iff_mem, events]

theorem restrict_distinct (distinct : (s.nodes.map Node.id).Nodup) :
    ((s.restrict ids).nodes.map Node.id).Nodup := by
  rw [restrict_names]
  exact distinct.filter _

theorem restrict_lastNode? (inside : id ∈ ids) :
    lastNode? (s.restrict ids).nodes id = lastNode? s.nodes id := by
  rw [lastNode?, lastNode?, restrict, ← List.filter_reverse, List.find?_filter]
  congr 1
  funext n
  by_cases same : n.id = id <;> simp [same, inside]

theorem hasTemplate_restrict {t : Template} :
    HasTemplate c (s.restrict ids).nodes id t ↔ HasTemplate c s.nodes id t ∧ id ∈ ids := by
  simp only [HasTemplate, restrict, List.mem_filter, List.contains_iff_mem]
  constructor
  · intro has
    rcases has with ⟨n, ⟨member, inside⟩, rfl, known⟩
    exact ⟨⟨n, member, rfl, known⟩, inside⟩
  · intro has
    rcases has with ⟨⟨n, member, rfl, known⟩, inside⟩
    exact ⟨n, ⟨member, inside⟩, rfl, known⟩

theorem attached_restrict :
    (s.restrict ids).Attached k ↔ s.Attached k ∧ k.fromNode ∈ ids ∧ k.toNode ∈ ids := by
  simp only [Attached, restrict_names, List.mem_filter, List.contains_iff_mem]
  simp only [restrict, List.mem_filter, Bool.and_eq_true, List.contains_iff_mem]
  tauto

theorem reenters_restrict (inside : k.toNode ∈ ids) :
    (s.restrict ids).Reenters c k ↔ s.Reenters c k := by
  simp only [Reenters, hasTemplate_restrict, inside, and_true]

theorem active_restrict :
    (s.restrict ids).Active c k ↔ s.Active c k ∧ k.fromNode ∈ ids ∧ k.toNode ∈ ids := by
  rw [Active, Active, attached_restrict]
  constructor
  · intro active
    rcases active with ⟨⟨attached, source, target⟩, forward⟩
    exact ⟨⟨attached, mt (reenters_restrict target).mpr forward⟩, source, target⟩
  · intro active
    rcases active with ⟨⟨attached, forward⟩, source, target⟩
    exact ⟨⟨attached, source, target⟩, mt (reenters_restrict target).mp forward⟩

theorem step_restrict {a b : Text} :
    (s.restrict ids).Step c a b ↔ s.Step c a b ∧ a ∈ ids ∧ b ∈ ids := by
  simp only [Step, active_restrict]
  constructor
  · intro step
    rcases step with ⟨k, ⟨active, source, target⟩, rfl, rfl⟩
    exact ⟨⟨k, active, rfl, rfl⟩, source, target⟩
  · intro step
    rcases step with ⟨⟨k, active, rfl, rfl⟩, source, target⟩
    exact ⟨k, ⟨active, source, target⟩, rfl, rfl⟩

theorem eventAt_restrict (inside : id ∈ ids) :
    (s.restrict ids).EventAt c id ↔ s.EventAt c id := by
  simp only [EventAt, hasTemplate_restrict, inside, and_true]

theorem restrict_those {holds : Connection → Prop} :
    (s.restrict ids).those holds = s.those fun k => holds k ∧ k.fromNode ∈ ids ∧ k.toNode ∈ ids := by
  classical
  rw [those, restrict, List.filter_filter]
  apply filter_eq_those
  intro k _
  simp

theorem Covers.source (covers : s.Covers c event ids) {a b : Text} (step : s.Step c a b)
    (inside : b ∈ ids) : a ∈ ids := by
  rcases step with ⟨k, active, rfl, rfl⟩
  exact covers.sources k active.1 inside

theorem Covers.member (covers : s.Covers c event ids) :
    (s.restrict ids).Member c event id ↔ s.Member c event id := by
  constructor
  · intro member
    rcases member with ⟨mid, ahead, back⟩
    refine ⟨mid, Relation.ReflTransGen.mono ?_ _ _ ahead, Relation.ReflTransGen.mono ?_ _ _ back⟩
    · intro a b enters
      rcases enters with ⟨step, plain⟩
      rcases step_restrict.mp step with ⟨step, _, inside⟩
      exact ⟨step, mt (eventAt_restrict inside).mpr plain⟩
    · intro a b enters
      rcases enters with ⟨step, plain⟩
      rcases step_restrict.mp step with ⟨step, inside, _⟩
      exact ⟨step, mt (eventAt_restrict inside).mpr plain⟩
  · intro member
    rcases member with ⟨mid, ahead, back⟩
    refine ⟨mid, ?_, ?_⟩
    -- Every node on either path is a member itself, so the list holds both ends of each step.
    · clear back
      induction ahead with
      | refl => exact .refl
      | tail before step ih =>
          have inside := covers.members _ ⟨_, before.tail step, .refl⟩
          have source := covers.source step.1 inside
          exact ih.tail ⟨step_restrict.mpr ⟨step.1, source, inside⟩,
            mt (eventAt_restrict inside).mp step.2⟩
    · induction back with
      | refl => exact .refl
      | tail before step ih =>
          have target := covers.members _ ⟨mid, ahead, before⟩
          have inside := covers.source step.1 target
          exact ih.tail ⟨step_restrict.mpr ⟨step.1, inside, target⟩,
            mt (eventAt_restrict inside).mp step.2⟩

theorem Covers.bridged (covers : s.Covers c event ids) (distinct : (s.nodes.map Node.id).Nodup)
    (inside : id ∈ ids) : id ∈ (s.restrict ids).activeBridged c ↔ id ∈ s.activeBridged c := by
  have carry {b : Text} (inside : b ∈ ids) :
      carries c (s.restrict ids).nodes b = carries c s.nodes b := by
    rw [carries, carries, restrict_lastNode? inside]
  rw [mem_activeBridged (restrict_distinct distinct), mem_activeBridged distinct]
  constructor
  · intro fed
    rcases fed with ⟨b, isBridge, path⟩
    refine ⟨b, (mem_bridges_restrict.mp isBridge).1, Relation.TransGen.mono ?_ _ _ path⟩
    intro a d enters
    rcases enters with ⟨step, carrier⟩
    rcases step_restrict.mp step with ⟨step, _, inside⟩
    exact ⟨step, carry inside ▸ carrier⟩
  · intro fed
    rcases fed with ⟨b, isBridge, path⟩
    -- From the end of the path backwards: what leads to a node that is kept is kept.
    have kept : b ∈ ids ∧ Relation.TransGen
        (fun a d => (s.restrict ids).Step c a d ∧ carries c (s.restrict ids).nodes d = true) b id := by
      induction path with
      | single step =>
          have source := covers.source step.1 inside
          exact ⟨source, .single ⟨step_restrict.mpr ⟨step.1, source, inside⟩,
            (carry inside).symm ▸ step.2⟩⟩
      | tail before step ih =>
          have source := covers.source step.1 inside
          rcases ih source with ⟨first, way⟩
          exact ⟨first, way.tail ⟨step_restrict.mpr ⟨step.1, source, inside⟩,
            (carry inside).symm ▸ step.2⟩⟩
    exact ⟨b, mem_bridges_restrict.mpr ⟨isBridge, kept.1⟩, kept.2⟩

theorem members_eq (distinct : (s.nodes.map Node.id).Nodup) (named : event ∈ s.nodes.map Node.id)
    {keep : Text → Bool} (exact : ∀ id ∈ s.nodes.map Node.id, keep id = true ↔ s.Member c event id) :
    (Wiring.ofScript c s).members c event = (s.nodes.map Node.id).filter keep := by
  have listed : (Wiring.ofScript c s).idOrder = s.nodes.map Node.id := Wiring.idOrder_eq distinct
  have member {id : Text} : id ∈ (Wiring.ofScript c s).members c event ↔ s.Member c event id :=
    Wiring.mem_members distinct named
  rw [Wiring.members, listed] at member ⊢
  apply List.filter_congr
  intro id present
  rw [Bool.eq_iff_iff, exact id present, ← member, List.mem_filter, and_iff_right present]

theorem Covers.members_eq (covers : s.Covers c event ids) (distinct : (s.nodes.map Node.id).Nodup)
    (named : event ∈ s.nodes.map Node.id) :
    (Wiring.ofScript c (s.restrict ids)).members c event = (Wiring.ofScript c s).members c event := by
  classical
  have inside : event ∈ ids := covers.members event ⟨event, .refl, .refl⟩
  have named' : event ∈ (s.restrict ids).nodes.map Node.id := by
    rw [restrict_names, List.mem_filter, List.contains_iff_mem]
    exact ⟨named, inside⟩
  have cut := Script.members_eq (restrict_distinct distinct) named'
    (fun id _ => decide_eq_true_iff.trans covers.member.symm :
      ∀ id ∈ (s.restrict ids).nodes.map Node.id,
        decide (s.Member c event id) = true ↔ (s.restrict ids).Member c event id)
  have whole := Script.members_eq distinct named
    (fun id _ => decide_eq_true_iff :
      ∀ id ∈ s.nodes.map Node.id, decide (s.Member c event id) = true ↔ s.Member c event id)
  rw [cut, whole, restrict_names, List.filter_filter]
  apply List.filter_congr
  intro id _
  by_cases member : s.Member c event id
  · simp [member, covers.members id member]
  · simp [member]

/-- The connections of a property into the members are all kept if it holds as before of those between
nodes that are kept. -/
theorem Covers.into_those (covers : s.Covers c event ids) {holds before : Connection → Prop}
    (attached : ∀ k, before k → s.Attached k)
    (same : ∀ k, k.fromNode ∈ ids → k.toNode ∈ ids → (holds k ↔ before k))
    {members : List Text} (member : ∀ id ∈ members, s.Member c event id) :
    Wiring.into members ((s.restrict ids).those holds) = Wiring.into members (s.those before) := by
  rw [restrict_those, Wiring.into, Wiring.into, filter_those, filter_those]
  apply those_congr
  intro k _
  simp only [decide_eq_true_eq]
  constructor
  · intro wire
    rcases wire with ⟨⟨wire, source, target⟩, arrives⟩
    exact ⟨(same k source target).mp wire, arrives⟩
  · intro wire
    rcases wire with ⟨wire, arrives⟩
    have target := covers.members _ (member _ arrives)
    have source := covers.sources k (attached k wire) target
    exact ⟨⟨(same k source target).mpr wire, source, target⟩, arrives⟩

theorem Covers.into_active (covers : s.Covers c event ids) (distinct : (s.nodes.map Node.id).Nodup)
    {members : List Text} (member : ∀ id ∈ members, s.Member c event id) :
    Wiring.into members (Wiring.ofScript c (s.restrict ids)).active =
      Wiring.into members (Wiring.ofScript c s).active := by
  rw [active_eq (restrict_distinct distinct), active_eq distinct]
  refine covers.into_those (fun _ active => active.1) ?_ member
  intro k source target
  rw [active_restrict, and_iff_left ⟨source, target⟩]

theorem Covers.into_loopBack (covers : s.Covers c event ids)
    (distinct : (s.nodes.map Node.id).Nodup) {members : List Text}
    (member : ∀ id ∈ members, s.Member c event id) :
    Wiring.into members (Wiring.ofScript c (s.restrict ids)).loopBack =
      Wiring.into members (Wiring.ofScript c s).loopBack := by
  rw [loopBack_eq (restrict_distinct distinct), loopBack_eq distinct]
  refine covers.into_those (fun _ back => back.1) ?_ member
  intro k source target
  have ends : k.fromNode ∈ ids ∧ k.toNode ∈ ids := ⟨source, target⟩
  rw [attached_restrict, reenters_restrict target, and_iff_left ends]

theorem Covers.alike (covers : s.Covers c event ids) (distinct : (s.nodes.map Node.id).Nodup)
    {members : List Text} (member : ∀ id ∈ members, s.Member c event id) :
    Wiring.Alike c (fun id => id) Eq (Wiring.ofScript c s) (Wiring.ofScript c (s.restrict ids))
      members := by
  have wire (k : Connection) (attached : s.Attached k) (arrives : k.toNode ∈ members) :
      Wiring.Wire c (fun id => id) Eq (Wiring.ofScript c s) (Wiring.ofScript c (s.restrict ids))
        k k := by
    have source := covers.sources k attached (covers.members _ (member _ arrives))
    refine ⟨⟨rfl, rfl, rfl, rfl, rfl⟩, ?_, ?_⟩
    · exact congrArg (·.bind c.nodeTemplate?) (restrict_lastNode? source)
    · rw [Bool.eq_iff_iff, List.contains_iff_mem, List.contains_iff_mem]
      exact covers.bridged distinct source
  refine ⟨?_, ?_, ?_⟩
  · intro id inside
    exact congrArg (Option.map Wiring.content)
      (restrict_lastNode? (covers.members id (member id inside)))
  · rw [List.map_id', covers.into_active distinct member, List.forall₂_same]
    intro k arrives
    rcases Wiring.mem_into.mp arrives with ⟨active, arrives⟩
    exact wire k ((Wiring.mem_active distinct).mp active).1 arrives
  · rw [List.map_id', covers.into_loopBack distinct member, List.forall₂_same]
    intro k arrives
    rcases Wiring.mem_into.mp arrives with ⟨back, arrives⟩
    exact wire k ((Wiring.mem_loopBack distinct).mp back).1 arrives

theorem root?_eq (listed : event ∈ s.events c) :
    (compile c s).root? event = some
      { event
        outcome := (Wiring.ofScript c s).compileMembers c ((Wiring.ofScript c s).members c event) } := by
  have found : (s.events c).find? (fun other => decide (other = event)) = some event := by
    cases here : (s.events c).find? fun other => decide (other = event) with
    | none => simpa using List.find?_eq_none.mp here event listed
    | some other =>
        have same : other = event := by simpa using List.find?_some here
        rw [same]
  simp only [Program.root?, compile, List.map_map, List.find?_map, Function.comp_def, found,
    Option.map_some]

theorem roots_congr {t : Script} (nodes : t.nodes = s.nodes)
    (connections : t.connections = s.connections) : (compile c t).roots = (compile c s).roots := by
  simp only [compile, events, Wiring.ofScript, idOrder, nodes, connections]

theorem Covers.root? (covers : s.Covers c event ids) (distinct : (s.nodes.map Node.id).Nodup)
    (listed : event ∈ s.events c) :
    (compile c (s.restrict ids)).root? event = (compile c s).root? event := by
  have named := event_named listed
  have inside : event ∈ ids := covers.members event ⟨event, .refl, .refl⟩
  have member (id : Text) (present : id ∈ (Wiring.ofScript c s).members c event) :
      s.Member c event id := (Wiring.mem_members distinct named).mp present
  have cut := Wiring.compileMembers_alike (covers.alike distinct member) fun _ _ same => same
  have self := Wiring.compileMembers_alike (Wiring.Alike.refl (c := c) (Wiring.ofScript c s)
    ((Wiring.ofScript c s).members c event)) fun _ _ same => same
  rw [List.map_id'] at cut self
  rw [root?_eq listed, root?_eq (mem_events_restrict.mpr ⟨listed, inside⟩),
    covers.members_eq distinct named, cut.unique self]

theorem mem_upstreamIds (distinct : (s.nodes.map Node.id).Nodup) (listed : event ∈ s.events c) :
    id ∈ s.upstreamIds c event ↔ id ∈ s.nodes.map Node.id ∧ s.Upstream c event id := by
  have back : Follows ((edges s.connections).map Prod.swap) (fun _ => true) =
      Function.swap s.Links := by
    funext a b
    simp only [Follows, Wiring.mem_swapped, mem_edges, and_true, Function.swap, Links]
  simp only [upstreamIds, List.mem_filter, List.contains_iff_mem, mem_reach, Leads, back,
    Relation.reflTransGen_swap, Wiring.mem_members distinct (event_named listed), Upstream]

theorem upstream_covers (distinct : (s.nodes.map Node.id).Nodup) (listed : event ∈ s.events c) :
    s.Covers c event (s.upstreamIds c event) := by
  constructor
  · intro id member
    rw [mem_upstreamIds distinct listed]
    exact ⟨Wiring.member_named (event_named listed) member, id, member, .refl⟩
  · intro k attached target
    rw [mem_upstreamIds distinct listed] at target ⊢
    rcases target with ⟨_, member, inside, path⟩
    exact ⟨attached.2.1, member, inside, path.head ⟨k, attached.1, rfl, rfl⟩⟩

end

end Script

/-- The answer to an event is the one it gets in the script cut down to what is upstream of it, so it is
the same in all scripts that agree there. -/
theorem compile_upstream (c : Catalog) (s : Script) (event : Text)
    (distinct : (s.nodes.map Node.id).Nodup) (listed : event ∈ s.events c) :
    (∀ id, id ∈ s.upstreamIds c event ↔ id ∈ s.nodes.map Node.id ∧ s.Upstream c event id) ∧
      ∃ r, (compile c s).root? event = some r ∧
        (compile c (s.upstream c event)).root? event = some r ∧
        ∀ t : Script, (t.nodes.map Node.id).Nodup →
          (t.upstream c event).nodes = (s.upstream c event).nodes →
          (t.upstream c event).connections = (s.upstream c event).connections →
          (compile c t).root? event = some r := by
  have kept (t : Script) (distinct : (t.nodes.map Node.id).Nodup) (listed : event ∈ t.events c) :
      (compile c (t.upstream c event)).root? event = (compile c t).root? event :=
    (Script.upstream_covers distinct listed).root? distinct listed
  refine ⟨fun id => Script.mem_upstreamIds distinct listed, _, Script.root?_eq listed, ?_, ?_⟩
  · rw [kept s distinct listed, Script.root?_eq listed]
  · intro t distinct' nodes connections
    have inside : event ∈ s.upstreamIds c event :=
      (Script.upstream_covers distinct listed).members event ⟨event, .refl, .refl⟩
    have there : event ∈ (t.upstream c event).events c := by
      have cut : event ∈ (s.upstream c event).events c :=
        Script.mem_events_restrict.mpr ⟨listed, inside⟩
      rwa [Script.events, ← nodes] at cut
    have listed' : event ∈ t.events c := (Script.mem_events_restrict.mp there).1
    calc (compile c t).root? event
      _ = (compile c (t.upstream c event)).root? event := (kept t distinct' listed').symm
      _ = (compile c (s.upstream c event)).root? event := by
        rw [Program.root?, Program.root?, Script.roots_congr nodes connections]
      _ = (compile c s).root? event := kept s distinct listed
      _ = some _ := Script.root?_eq listed

/-- `replied` with a second event beside the first. -/
def forked : Script :=
  { replied with
    nodes := replied.nodes ++ [{ id := "again", type := "event" }, { id := "idle", type := "log" }]
    connections := replied.connections ++ [
      { id := "c3", fromNode := "again", fromPort := "exec", toNode := "idle", toPort := "exec" }] }

theorem compile_upstream_forked :
    (forked.nodes.map Node.id).Nodup ∧ ("start" : Text) ∈ forked.events replyCatalog ∧
      (∀ id, id ∈ forked.upstreamIds replyCatalog "start" ↔
        id ∈ forked.nodes.map Node.id ∧ forked.Upstream replyCatalog "start" id) ∧
      ∃ r, (compile replyCatalog forked).root? "start" = some r ∧ r.ok = true ∧
        (compile replyCatalog (forked.upstream replyCatalog "start")).root? "start" = some r ∧
        (compile replyCatalog replied).root? "start" = some r := by
  have distinct : (forked.nodes.map Node.id).Nodup := by decide
  have listed : ("start" : Text) ∈ forked.events replyCatalog := by decide
  rcases compile_upstream replyCatalog forked "start" distinct listed with ⟨exact, r, root, cut, agree⟩
  have ok : ((compile replyCatalog forked).root? "start").all Root.ok = true := by decide +kernel
  rw [root] at ok
  exact ⟨distinct, listed, exact, r, root, ok, cut,
    agree replied (by decide) (by decide +kernel) (by decide +kernel)⟩

end NodeScript
