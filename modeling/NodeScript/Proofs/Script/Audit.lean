import NodeScript.Proofs.Script.Rules
import NodeScript.Script.Audit

namespace NodeScript

section

variable {α β : Type} {key : α → β} {seen : List β}

def Apart (key : α → β) (seen : List β) (l : List α) : Prop :=
  (l.map key).Nodup ∧ ∀ a ∈ l, key a ∉ seen

theorem apart_nil : Apart key seen [] := ⟨List.nodup_nil, by simp⟩

theorem apart_cons {a : α} {rest : List α} :
    Apart key seen (a :: rest) ↔ key a ∉ seen ∧ Apart key (key a :: seen) rest := by
  have later : (∀ b ∈ rest, key b ∉ key a :: seen) ↔
      key a ∉ rest.map key ∧ ∀ b ∈ rest, key b ∉ seen := by
    simp only [List.mem_cons, not_or, List.mem_map, not_exists, not_and]
    exact forall₂_and
  simp only [Apart, later, List.map_cons, List.nodup_cons, List.forall_mem_cons]
  tauto

theorem apart_start {l : List α} : Apart key [] l ↔ (l.map key).Nodup := by
  simp [Apart]

end

namespace Script

/-- The connection has a port at both ends and keeps the context rule. -/
def Wired (c : Catalog) (s : Script) (k : Connection) : Prop :=
  ∃ source target, HasTemplate c s.nodes k.fromNode source ∧ HasTemplate c s.nodes k.toNode target ∧
    (source.output? k.fromPort).isSome = true ∧ (target.input? k.toPort).isSome = true ∧
    crossingAllowed k.fromNode source target (s.bridged c) = true

structure Clean (c : Catalog) (s : Script) : Prop where
  nodes : (s.nodes.map Node.id).Nodup
  types : ∀ n ∈ s.nodes, c.knows n.type = true
  connections : (s.connections.map Connection.id).Nodup
  wired : ∀ k ∈ s.connections, s.Wired c k
  inputs : (s.connections.map Connection.input).Nodup

section

variable {c : Catalog} {s : Script} {k : Connection}

theorem nodeIssues_eq_nil {seen : List Text} {nodes : List Node} :
    nodeIssues c seen nodes = [] ↔ Apart Node.id seen nodes ∧ ∀ n ∈ nodes, c.knows n.type = true := by
  induction nodes generalizing seen with
  | nil => simp [nodeIssues, apart_nil]
  | cons n rest ih =>
      rw [apart_cons, List.forall_mem_cons]
      by_cases old : n.id ∈ seen
      · simp [nodeIssues, old]
      · by_cases known : c.knows n.type = true <;> simp [nodeIssues, old, known, ih]

theorem wired_iff {source target : Template} (distinct : (s.nodes.map Node.id).Nodup)
    (from? : HasTemplate c s.nodes k.fromNode source) (to? : HasTemplate c s.nodes k.toNode target) :
    s.Wired c k ↔ (source.output? k.fromPort).isSome = true ∧ (target.input? k.toPort).isSome = true ∧
      crossingAllowed k.fromNode source target (s.bridged c) = true := by
  constructor
  · rintro ⟨_, _, from', to', wired⟩
    cases from?.unique distinct from'
    cases to?.unique distinct to'
    exact wired
  · exact fun wired => ⟨source, target, from?, to?, wired⟩

theorem wiringIssues_eq_nil {bridged : List Text} {occupied more : Occupied} {fromNode : Node}
    {source target : Template} :
    wiringIssues bridged occupied k fromNode source target = ([], more) ↔
      ((source.output? k.fromPort).isSome = true ∧ (target.input? k.toPort).isSome = true ∧
        crossingAllowed fromNode.id source target bridged = true) ∧
      k.input ∉ occupied.map Prod.fst ∧ (k.input, k.id) :: occupied = more := by
  have free : k.input ∉ occupied.map Prod.fst ↔ occupied.lookup (k.toNode, k.toPort) = none := by
    simp only [List.lookup_eq_none_iff, List.mem_map, not_exists, not_and, bne_iff_ne]
    exact forall₂_congr fun _ _ => ne_comm
  unfold wiringIssues
  rw [free]
  split
  · rename_i unknown
    simp only [Option.isNone_iff_eq_none, Bool.or_eq_true] at unknown
    rcases unknown with missing | missing <;> simp [missing]
  · rename_i known
    simp only [Bool.or_eq_true, Option.isNone_iff_eq_none, not_or, ← ne_eq,
      ← Option.isSome_iff_ne_none] at known
    simp only [Prod.mk.injEq, List.append_eq_nil_iff, known.1, known.2, true_and, Connection.input]
    cases occupied.lookup (k.toNode, k.toPort) <;> simp

theorem connectionIssue_eq_nil {more : Occupied} (k : Connection) (occupied : Occupied) (distinct : (s.nodes.map Node.id).Nodup)
    (types : ∀ n ∈ s.nodes, c.knows n.type = true) :
    connectionIssue c s (s.bridged c) occupied k = ([], more) ↔
      s.Wired c k ∧ k.input ∉ occupied.map Prod.fst ∧ (k.input, k.id) :: occupied = more := by
  have template {id : Text} {n : Node} (found : s.node? id = some n) :
      ∃ t, c.find? n.type = some t ∧ HasTemplate c s.nodes id t := by
    obtain ⟨member, named⟩ := node?_mem found
    obtain ⟨t, known⟩ := knows_iff.mp (types n member)
    exact ⟨t, known, n, member, named, known⟩
  have missing {id : Text} (none : s.node? id = none) (t : Template) : ¬HasTemplate c s.nodes id t := by
    rintro ⟨n, member, rfl, _⟩
    simp [node?_of_mem distinct member] at none
  unfold connectionIssue
  cases first : s.node? k.fromNode with
  | none =>
      have refused : ¬s.Wired c k := fun ⟨source, _, has, _⟩ => missing first source has
      simp [refused, first]
  | some fromNode =>
      cases second : s.node? k.toNode with
      | none =>
          have refused : ¬s.Wired c k := fun ⟨_, target, _, has, _⟩ => missing second target has
          simp [refused]
      | some toNode =>
          obtain ⟨source, known, from?⟩ := template first
          obtain ⟨target, known', to?⟩ := template second
          rw [wired_iff distinct from? to?, ← (node?_mem first).2]
          simp only [Catalog.nodeTemplate?, known, known']
          exact wiringIssues_eq_nil

theorem connectionIssues_eq_nil {seen : List Text} {occupied : Occupied} {connections : List Connection}
    (distinct : (s.nodes.map Node.id).Nodup) (types : ∀ n ∈ s.nodes, c.knows n.type = true) :
    connectionIssues c s (s.bridged c) seen occupied connections = [] ↔
      Apart Connection.id seen connections ∧
      Apart Connection.input (occupied.map Prod.fst) connections ∧
      ∀ k ∈ connections, s.Wired c k := by
  induction connections generalizing seen occupied with
  | nil => simp [connectionIssues, apart_nil]
  | cons k rest ih =>
      rw [apart_cons, apart_cons, List.forall_mem_cons]
      by_cases old : k.id ∈ seen
      · simp [connectionIssues, old]
      · cases found : connectionIssue c s (s.bridged c) occupied k with
        | mk issues more =>
            simp only [connectionIssues, old, if_false, found, List.append_eq_nil_iff, ih]
            by_cases none : issues = []
            · subst none
              obtain ⟨wired, free, rfl⟩ := (connectionIssue_eq_nil k occupied distinct types).mp found
              simp [wired, free]
            · have refused : ¬(s.Wired c k ∧ k.input ∉ occupied.map Prod.fst) := by
                rintro ⟨wired, free⟩
                have clean := (connectionIssue_eq_nil k occupied distinct types).mpr
                  ⟨wired, free, rfl⟩
                rw [found] at clean
                exact none (Prod.mk.inj clean).1
              tauto

theorem issues_eq_nil : s.issues c = [] ↔ s.Clean c := by
  rw [issues, List.append_eq_nil_iff, nodeIssues_eq_nil, apart_start]
  constructor
  · rintro ⟨⟨distinct, types⟩, rest⟩
    obtain ⟨connections, inputs, wired⟩ := (connectionIssues_eq_nil distinct types).mp rest
    exact ⟨distinct, types, apart_start.mp connections, wired, apart_start.mp inputs⟩
  · intro clean
    refine ⟨⟨clean.nodes, clean.types⟩, ?_⟩
    exact (connectionIssues_eq_nil clean.nodes clean.types).mpr
      ⟨apart_start.mpr clean.connections, apart_start.mpr clean.inputs, clean.wired⟩

theorem audit_eq_nil : s.audit c = [] ↔ s.Clean c := by
  rw [audit, List.map_eq_nil_iff, issues_eq_nil]

theorem WellFormed.clean (formed : s.WellFormed c) : s.Clean c := by
  refine ⟨formed.nodes, formed.types, formed.connections, ?_, formed.inputs⟩
  intro k member
  obtain ⟨source, target, output, input, from?, to?, out, into, _⟩ := formed.joined k member
  exact ⟨source, target, from?, to?, by rw [out]; rfl, by rw [into]; rfl,
    formed.crossings k member source target from? to?⟩

end

end Script

end NodeScript
