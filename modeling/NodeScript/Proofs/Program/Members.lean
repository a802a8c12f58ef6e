import NodeScript.Program.Compile
import NodeScript.Proofs.Repetitions
import NodeScript.Proofs.Script.Rules

namespace NodeScript

namespace Script

/-- Both ends are nodes of the script. -/
def Attached (s : Script) (k : Connection) : Prop :=
  k ∈ s.connections ∧ k.fromNode ∈ s.nodes.map Node.id ∧ k.toNode ∈ s.nodes.map Node.id

def Reenters (c : Catalog) (s : Script) (k : Connection) : Prop :=
  ∃ t port, HasTemplate c s.nodes k.toNode t ∧ t.input? k.toPort = some port ∧ port.loopBack = true

def Active (c : Catalog) (s : Script) (k : Connection) : Prop := s.Attached k ∧ ¬s.Reenters c k

def Step (c : Catalog) (s : Script) (a b : Text) : Prop :=
  ∃ k, s.Active c k ∧ k.fromNode = a ∧ k.toNode = b

def EventAt (c : Catalog) (s : Script) (id : Text) : Prop :=
  ∃ t, HasTemplate c s.nodes id t ∧ t.isEvent = true

/-- The event leads to some node without entering an event, and so does this one. -/
def Member (c : Catalog) (s : Script) (event id : Text) : Prop :=
  ∃ mid, Relation.ReflTransGen (fun a b => s.Step c a b ∧ ¬s.EventAt c b) event mid ∧
    Relation.ReflTransGen (fun a b => s.Step c b a ∧ ¬s.EventAt c b) mid id

theorem Member.source {c : Catalog} {s : Script} {event a b : Text} (member : s.Member c event b)
    (step : s.Step c a b) : s.Member c event a ∨ s.EventAt c a := by
  by_cases entered : s.EventAt c a
  · exact Or.inr entered
  · rcases member with ⟨mid, ahead, back⟩
    exact Or.inl ⟨mid, ahead, back.tail ⟨step, entered⟩⟩

end Script

namespace Wiring

variable {c : Catalog} {s : Script} {event id : Text} {k : Connection}

theorem idOrder_eq (distinct : (s.nodes.map Node.id).Nodup) : s.idOrder = s.nodes.map Node.id := by
  rw [Script.idOrder, eraseDups_eq_self (List.nodup_reverse.mpr distinct), List.reverse_reverse]

theorem templateAt?_iff {t : Template} (distinct : (s.nodes.map Node.id).Nodup) :
    (ofScript c s).templateAt? c id = some t ↔ HasTemplate c s.nodes id t := by
  rw [hasTemplate_iff distinct, templateAt?, Option.bind_eq_some_iff]
  rfl

theorem isEventAt_iff (distinct : (s.nodes.map Node.id).Nodup) :
    (ofScript c s).isEventAt c id = true ↔ s.EventAt c id := by
  simp only [isEventAt, Option.any_eq_true, templateAt?_iff distinct, Script.EventAt]

theorem loopsBack_iff (distinct : (s.nodes.map Node.id).Nodup) :
    loopsBack c s.nodes k = true ↔ s.Reenters c k := by
  have known (t : Template) : (lastNode? s.nodes k.toNode).bind c.nodeTemplate? = some t ↔
      HasTemplate c s.nodes k.toNode t := templateAt?_iff distinct
  simp only [loopsBack, Template.loopsBackAt, Option.any_eq_true, known, Script.Reenters]
  constructor
  · intro found
    rcases found with ⟨t, has, port, input, back⟩
    exact ⟨t, port, has, input, back⟩
  · intro found
    rcases found with ⟨t, port, has, input, back⟩
    exact ⟨t, has, port, input, back⟩

theorem joined_iff : k ∈ s.connections.filter (joined s.nodes) ↔ s.Attached k := by
  simp only [List.mem_filter, joined, Bool.and_eq_true, lastNode?_isSome, Script.Attached]

theorem mem_active (distinct : (s.nodes.map Node.id).Nodup) :
    k ∈ (ofScript c s).active ↔ s.Active c k := by
  simp only [ofScript, List.mem_filter (p := fun k => !loopsBack c s.nodes k), joined_iff,
    Bool.not_eq_true', Script.Active, ← loopsBack_iff distinct, Bool.not_eq_true]

theorem mem_loopBack (distinct : (s.nodes.map Node.id).Nodup) :
    k ∈ (ofScript c s).loopBack ↔ s.Attached k ∧ s.Reenters c k := by
  simp only [ofScript, List.mem_filter (p := loopsBack c s.nodes), joined_iff, loopsBack_iff distinct]

theorem attached_iff (distinct : (s.nodes.map Node.id).Nodup) :
    k ∈ (ofScript c s).active ++ (ofScript c s).loopBack ↔ s.Attached k := by
  rw [List.mem_append, mem_active distinct, mem_loopBack distinct, Script.Active]
  tauto

theorem mem_edges_active (distinct : (s.nodes.map Node.id).Nodup) {a b : Text} :
    (a, b) ∈ edges (ofScript c s).active ↔ s.Step c a b := by
  simp only [mem_edges, mem_active distinct, Script.Step]

theorem mem_forward (distinct : (s.nodes.map Node.id).Nodup) :
    id ∈ (ofScript c s).forward c event ↔
      Relation.ReflTransGen (fun a b => s.Step c a b ∧ ¬s.EventAt c b) event id := by
  have step : Follows (edges (ofScript c s).active) (fun id => !(ofScript c s).isEventAt c id) =
      fun a b => s.Step c a b ∧ ¬s.EventAt c b := by
    funext a b
    simp only [Follows, mem_edges_active distinct, ← isEventAt_iff distinct, Bool.not_eq_true',
      Bool.not_eq_true]
  simp only [forward, mem_reach, Leads, step, List.mem_singleton, exists_eq_left]

theorem mem_swapped {l : List (Text × Text)} {a b : Text} :
    (a, b) ∈ l.map Prod.swap ↔ (b, a) ∈ l := by
  constructor
  · intro member
    rcases List.mem_map.mp member with ⟨⟨x, y⟩, present, same⟩
    cases same
    exact present
  · exact fun member => List.mem_map_of_mem (f := Prod.swap) member

theorem named_of_path {blocked : Text → Prop} (named : event ∈ s.nodes.map Node.id)
    (path : Relation.ReflTransGen (fun a b => (s.Step c a b ∨ s.Step c b a) ∧ ¬blocked b) event id) :
    id ∈ s.nodes.map Node.id := by
  rcases path.cases_tail with same | ⟨a, _, step, _⟩
  · exact same ▸ named
  · rcases step with ⟨k, active, _, rfl⟩ | ⟨k, active, rfl, _⟩
    · exact active.1.2.2
    · exact active.1.2.1

theorem member_named (named : event ∈ s.nodes.map Node.id) (member : s.Member c event id) :
    id ∈ s.nodes.map Node.id := by
  rcases member with ⟨mid, ahead, back⟩
  have there : mid ∈ s.nodes.map Node.id :=
    named_of_path named (Relation.ReflTransGen.mono (fun _ _ step => ⟨Or.inl step.1, step.2⟩) _ _ ahead)
  exact named_of_path there
    (Relation.ReflTransGen.mono (fun _ _ step => ⟨Or.inr step.1, step.2⟩) _ _ back)

theorem mem_members (distinct : (s.nodes.map Node.id).Nodup) (named : event ∈ s.nodes.map Node.id) :
    id ∈ (ofScript c s).members c event ↔ s.Member c event id := by
  have step : Follows ((edges (ofScript c s).active).map Prod.swap)
      (fun id => !(ofScript c s).isEventAt c id) = fun a b => s.Step c b a ∧ ¬s.EventAt c b := by
    funext a b
    simp only [Follows, mem_swapped, mem_edges_active distinct, ← isEventAt_iff distinct,
      Bool.not_eq_true', Bool.not_eq_true]
  have found : id ∈ reach ((edges (ofScript c s).active).map Prod.swap)
      (fun id => !(ofScript c s).isEventAt c id) ((ofScript c s).forward c event) ↔
      s.Member c event id := by
    simp only [mem_reach, Leads, step, mem_forward distinct, Script.Member]
  have listed : (ofScript c s).idOrder = s.nodes.map Node.id := idOrder_eq distinct
  simp only [members, List.mem_filter, listed, List.contains_iff_mem, found, and_iff_right_iff_imp]
  exact member_named named

theorem members_sublist (distinct : (s.nodes.map Node.id).Nodup) :
    ((ofScript c s).members c event).Sublist (s.nodes.map Node.id) := by
  have listed : (ofScript c s).idOrder = s.nodes.map Node.id := idOrder_eq distinct
  rw [members, listed]
  exact List.filter_sublist

theorem members_nodup (distinct : (s.nodes.map Node.id).Nodup) :
    ((ofScript c s).members c event).Nodup :=
  distinct.sublist (members_sublist distinct)

end Wiring

end NodeScript
