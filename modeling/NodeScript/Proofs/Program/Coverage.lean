import NodeScript.Proofs.Program.Verdict

/-!
Which nodes a program covers. An event gathers what it leads to and what feeds that, and other events
are a barrier in both directions. The members of an event are what it gathers, its statements are
those of its members, and the nodes that no event gathers are told in a warning, whether the events
compile or not.
-/
namespace NodeScript

namespace Script

section

variable (c : Catalog) (s : Script) (event : Text)

/-- The event leads to the node along active connections, and no other event is entered. -/
def Ahead (id : Text) : Prop :=
  Relation.ReflTransGen (fun a b => s.Step c a b ∧ (s.EventAt c b → b = event)) event id

/-- The node leads to one ahead of the event along active connections, and no node on the way, the
first one included, is an event unless it is ahead itself. -/
def Gathers (id : Text) : Prop :=
  ∃ mid, s.Ahead c event mid ∧
    Relation.ReflTransGen
      (fun a b => s.Step c a b ∧ (¬s.Ahead c event a → ¬s.EventAt c a)) id mid

end

section

variable {c : Catalog} {s : Script} {event id : Text}

theorem ahead_iff : s.Ahead c event id ↔
    Relation.ReflTransGen (fun a b => s.Step c a b ∧ ¬s.EventAt c b) event id := by
  constructor
  · intro path
    induction path with
    | refl => exact .refl
    | @tail a b _ step ih =>
        by_cases entered : s.EventAt c b
        · rw [step.2 entered]
        · exact ih.tail ⟨step.1, entered⟩
  · exact Relation.ReflTransGen.mono (fun _ _ step => ⟨step.1, fun entered => absurd entered step.2⟩) _ _

/-- A way to the nodes ahead may run through some of them; up to the first one it meets no event. -/
theorem gathers_iff : s.Gathers c event id ↔ s.Member c event id := by
  constructor
  · intro gathers
    rcases gathers with ⟨mid, ahead, path⟩
    induction path using Relation.ReflTransGen.head_induction_on with
    | refl => exact ⟨mid, ahead_iff.mp ahead, .refl⟩
    | @head a b step _ ih =>
        by_cases early : s.Ahead c event a
        · exact ⟨a, ahead_iff.mp early, .refl⟩
        · rcases ih with ⟨first, reached, back⟩
          exact ⟨first, reached, back.tail ⟨step.1, step.2 early⟩⟩
  · intro member
    rcases member with ⟨mid, reached, back⟩
    refine ⟨mid, ahead_iff.mpr reached, ?_⟩
    exact Relation.ReflTransGen.mono (fun _ _ step => ⟨step.1, fun _ => step.2⟩) _ _ back.swap

theorem root_events : (compile c s).roots.map Root.event = s.events c := by
  simp [compile, Function.comp_def]

theorem mem_dead (distinct : (s.nodes.map Node.id).Nodup) : id ∈ (compile c s).dead ↔
    id ∈ s.nodes.map Node.id ∧ ¬∃ event ∈ s.events c, s.Member c event id := by
  have covered : id ∈ ((s.events c).map fun event =>
      (event, (Wiring.ofScript c s).members c event)).flatMap (·.2) ↔
      ∃ event ∈ s.events c, s.Member c event id := by
    simp only [List.flatMap_map, List.mem_flatMap]
    refine exists_congr fun event => and_congr_right fun listed => ?_
    exact Wiring.mem_members distinct (event_named listed)
  simp only [compile, List.mem_filter, Bool.not_eq_true', List.contains_eq_mem,
    decide_eq_false_iff_not, covered]

theorem dead_sublist : (compile c s).dead.Sublist (s.nodes.map Node.id) := List.filter_sublist

theorem statements_members {r : Root} {statements : List Statement}
    (distinct : (s.nodes.map Node.id).Nodup) (member : r ∈ (compile c s).roots)
    (ok : r.outcome = .ok statements) :
    (statements.map Statement.node).Nodup ∧
      ∀ id, id ∈ statements.map Statement.node ↔ s.Member c r.event id := by
  have verdict := root_verdict distinct member
  rw [ok] at verdict
  cases verdict with
  | statements typed acyclic topological legal nodes =>
      rw [nodes]
      exact ⟨topological.distinct, topological.members⟩

end

end Script

theorem Program.warnings_eq_nil {p : Program} : p.warnings = [] ↔ p.dead = [] := by
  by_cases none : p.dead = [] <;> simp [warnings, none]

theorem Program.mem_warnings {p : Program} {d : Diagnostic} :
    d ∈ p.warnings ↔ p.dead ≠ [] ∧ d = deadCode p.dead := by
  by_cases none : p.dead = [] <;> simp [warnings, none]

/-- There is a root for every event node. Its members are what the event gathers, a root that compiles
has a statement for each of them and no others, and a warning tells, in the order of the script, of
just the nodes that no event gathers. -/
theorem compile_coverage (c : Catalog) (s : Script) (distinct : (s.nodes.map Node.id).Nodup) :
    (compile c s).roots.map Root.event = s.events c ∧
    (∀ event ∈ s.events c, ∀ id,
      id ∈ (Wiring.ofScript c s).members c event ↔ s.Gathers c event id) ∧
    (∀ r ∈ (compile c s).roots, ∀ statements, r.outcome = .ok statements →
      (statements.map Statement.node).Nodup ∧
        ∀ id, id ∈ statements.map Statement.node ↔ s.Gathers c r.event id) ∧
    (compile c s).warnings.length ≤ 1 ∧
    ((compile c s).warnings = [] ↔
      ∀ id ∈ s.nodes.map Node.id, ∃ event ∈ s.events c, s.Gathers c event id) ∧
    (∀ d ∈ (compile c s).warnings,
      d.kind = .deadCode ∧ d.fatal = false ∧ d.nodes.Sublist (s.nodes.map Node.id) ∧
        ∀ id, id ∈ d.nodes ↔
          id ∈ s.nodes.map Node.id ∧ ¬∃ event ∈ s.events c, s.Gathers c event id) ∧
    ∀ id ∈ s.nodes.map Node.id,
      (∃ event ∈ s.events c, s.Gathers c event id) ↔ ¬∃ d ∈ (compile c s).warnings, id ∈ d.nodes := by
  simp only [Script.gathers_iff]
  have dead (id : Text) : id ∈ (compile c s).dead ↔
      id ∈ s.nodes.map Node.id ∧ ¬∃ event ∈ s.events c, s.Member c event id :=
    Script.mem_dead distinct
  refine ⟨Script.root_events,
    fun event listed id => Wiring.mem_members distinct (event_named listed),
    fun r member statements ok => Script.statements_members distinct member ok, ?_, ?_, ?_, ?_⟩
  · unfold Program.warnings
    split <;> simp
  · rw [Program.warnings_eq_nil, List.eq_nil_iff_forall_not_mem]
    simp only [dead, not_and, not_not]
  · intro d told
    obtain ⟨_, rfl⟩ := Program.mem_warnings.mp told
    exact ⟨rfl, rfl, Script.dead_sublist, dead⟩
  · intro id named
    have told : (∃ d ∈ (compile c s).warnings, id ∈ d.nodes) ↔ id ∈ (compile c s).dead := by
      simp only [Program.mem_warnings]
      constructor
      · rintro ⟨_, ⟨_, rfl⟩, listed⟩
        exact listed
      · exact fun listed => ⟨_, ⟨List.ne_nil_of_mem listed, rfl⟩, listed⟩
    rw [told, dead, not_and_not_right, forall_prop_of_true named]

def plainCatalog : Catalog where
  templates := [
    { type := "event", category := .events, context := .host, label := "Event"
      outputs := [{ name := "exec", type := .flow }, { name := "value", type := .any }] },
    { type := "value", category := .constants, context := .host, label := "Value"
      outputs := [{ name := "value", type := .any }] },
    { type := "step", category := .output, context := .host, label := "Step"
      inputs := [{ name := "exec", type := .flow }, { name := "value", type := .any }]
      outputs := [{ name := "exec", type := .flow }] },
    { type := "loop", category := .flow, context := .host, label := "Loop", loop := true
      inputs := [{ name := "exec", type := .flow },
        { name := "next", type := .flow, loopBack := true }]
      outputs := [{ name := "body", type := .flow }] }]
  faultless := by decide

/-- The second event leads to a circle. It hands a value to the first one and is handed one itself, so
what feeds it is its own; two nodes are fed by no event. -/
def strayed : Script :=
  { id := "strayed"
    name := "Strayed"
    nodes := [
      { id := "spare", type := "value" }, { id := "start", type := "event" },
      { id := "work", type := "step" }, { id := "count", type := "value" },
      { id := "tick", type := "event" }, { id := "feed", type := "value" },
      { id := "round", type := "step" }, { id := "idle", type := "step" }]
    connections := [
      { id := "c0", fromNode := "start", fromPort := "exec", toNode := "work", toPort := "exec" },
      { id := "c1", fromNode := "count", fromPort := "value", toNode := "work", toPort := "value" },
      { id := "c2", fromNode := "tick", fromPort := "value", toNode := "work", toPort := "value" },
      { id := "c3", fromNode := "feed", fromPort := "value", toNode := "tick", toPort := "value" },
      { id := "c4", fromNode := "tick", fromPort := "exec", toNode := "round", toPort := "exec" },
      { id := "c5", fromNode := "round", fromPort := "exec", toNode := "round", toPort := "exec" },
      { id := "c6", fromNode := "spare", fromPort := "value", toNode := "idle", toPort := "value" },
      { id := "c7", fromNode := "nobody", fromPort := "exec", toNode := "idle", toPort := "exec" }] }

theorem compile_coverage_strayed :
    (strayed.nodes.map Node.id).Nodup ∧
      (∀ id, strayed.Gathers plainCatalog "start" id ↔ id ∈ (["start", "work", "count"] : List Text)) ∧
      (∀ id, strayed.Gathers plainCatalog "tick" id ↔
        id ∈ (["work", "count", "tick", "feed", "round"] : List Text)) ∧
      (compile plainCatalog strayed).roots.map Root.ok = [true, false] ∧
      ∀ id, (∃ d ∈ (compile plainCatalog strayed).warnings, id ∈ d.nodes) ↔
        id ∈ (["spare", "idle"] : List Text) := by
  have distinct : (strayed.nodes.map Node.id).Nodup := by decide
  have first : (Wiring.ofScript plainCatalog strayed).members plainCatalog "start" =
      (["start", "work", "count"] : List Text) := by decide +kernel
  have second : (Wiring.ofScript plainCatalog strayed).members plainCatalog "tick" =
      (["work", "count", "tick", "feed", "round"] : List Text) := by decide +kernel
  have compiled : ((compile plainCatalog strayed).roots.map Root.ok,
      (compile plainCatalog strayed).warnings) =
      ([true, false], [Program.deadCode (["spare", "idle"] : List Text)]) := by decide +kernel
  obtain ⟨roots, warned⟩ := Prod.mk.inj compiled
  obtain ⟨-, gathered, -⟩ := compile_coverage plainCatalog strayed distinct
  refine ⟨distinct, fun id => ?_, fun id => ?_, roots, fun id => ?_⟩
  · rw [← gathered "start" (by decide) id, first]
  · rw [← gathered "tick" (by decide) id, second]
  · simp [warned, Program.deadCode]

end NodeScript
