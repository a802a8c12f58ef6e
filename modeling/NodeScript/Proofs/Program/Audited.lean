import NodeScript.Catalog.Standard
import NodeScript.Proofs.Program.Verdict
import NodeScript.Proofs.Script.Audit

/-!
Compiling what the audit accepts. All types are known then, and every connection is allowed by what
all connections bridge. The compiler asks what those bridge that re-enter no loop; the two differ
only in nodes of the target context, and not at all if no such node has a port that re-enters a loop.
-/
namespace NodeScript

/-- Loops are re-entered only in the host. -/
def Catalog.LoopsOnHost (c : Catalog) : Prop :=
  ∀ t ∈ c.templates, t.context = .target → ∀ port ∈ t.inputs, port.loopBack = false

theorem standard_loopsOnHost : Catalog.standard.LoopsOnHost := by
  unfold Catalog.LoopsOnHost
  decide +kernel

namespace Script

/-- The connections that re-enter no loop. -/
def onward (c : Catalog) (s : Script) : List Connection :=
  s.connections.filter fun k => !Wiring.loopsBack c s.nodes k

section

variable {c : Catalog} {s : Script} {event id : Text} {k : Connection}

theorem Clean.attached (clean : s.Clean c) (member : k ∈ s.connections) : s.Attached k := by
  rcases clean.wired k member with ⟨_, _, from?, to?, _⟩
  exact ⟨member, from?.named, to?.named⟩

theorem Clean.activeBridged (clean : s.Clean c) :
    s.activeBridged c = bridgedTargets c s.nodes (s.onward c) := by
  have joined : s.connections.filter (Wiring.joined s.nodes) = s.connections := by
    apply List.filter_eq_self.mpr
    intro k member
    exact (List.mem_filter.mp (Wiring.joined_iff.mpr (clean.attached member))).2
  simp only [Script.activeBridged, Wiring.ofScript, joined, onward]

theorem Clean.typed (clean : s.Clean c) (id : Text) : ¬s.Untyped c id := by
  intro untyped
  rcases untyped with ⟨n, member, _, none⟩
  rcases knows_iff.mp (clean.types n member) with ⟨t, known⟩
  rw [none] at known
  cases known

/-- A connection that only the compiler refuses starts at a node that only all connections bridge. -/
theorem Clean.drift {source target : Template} (clean : s.Clean c)
    (crosses : s.Crosses c event k source target) :
    source.context = .target ∧ k.fromNode ∈ bridgedTargets c s.nodes s.connections ∧
      k.fromNode ∉ bridgedTargets c s.nodes (s.onward c) := by
  have wired := (wired_iff clean.nodes crosses.from? crosses.to?).mp
    (clean.wired k crosses.attached.1)
  have refused := crosses.refused
  rw [clean.activeBridged, Bool.eq_false_iff, ne_eq, crossingAllowed_iff] at refused
  push Not at refused
  obtain ⟨apart, noSource, noTarget, unfed⟩ := refused
  rcases crossingAllowed_iff.mp wired.2.2 with same | bridge | bridge | fed
  · exact absurd same apart
  · exact absurd bridge noSource
  · exact absurd bridge noTarget
  · exact ⟨fed.1, fed.2, unfed fed.1⟩

theorem bridgedTargets_onward (distinct : (s.nodes.map Node.id).Nodup) (host : c.LoopsOnHost) :
    bridgedTargets c s.nodes s.connections ⊆ bridgedTargets c s.nodes (s.onward c) := by
  intro id fed
  refine bridgedTargets_lift (fun id => id) (fun _ member => member) (fun _ may => may) ?_ fed
  intro k member carried
  apply mem_edges.mpr
  refine ⟨k, List.mem_filter.mpr ⟨member, ?_⟩, rfl, rfl⟩
  rw [Bool.not_eq_true', Bool.eq_false_iff, ne_eq, Wiring.loopsBack_iff distinct]
  intro back
  rcases back with ⟨t, port, has, input, back⟩
  rcases (carries_iff_template distinct).mp carried with ⟨u, has', context, _⟩
  have same : t = u := has.unique distinct has'
  rcases has with ⟨n, _, _, known⟩
  have listed : t ∈ c.templates := List.mem_of_find?_eq_some known
  have forward := host t listed (same ▸ context) port (List.mem_of_find?_eq_some input)
  rw [forward] at back
  cases back

end

end Script

/-- The rules that the audit checks are enough for the compiler, but for cycles and, where loops may
be re-entered in the target, for crossings that only a re-entering connection bridges. -/
theorem compile_of_audit (c : Catalog) (s : Script) (clean : s.audit c = []) :
    (∀ r ∈ (compile c s).roots,
      (∀ types ids, r.outcome ≠ .error (.unknownTypes types ids)) ∧
      ∀ fromNode fromContext toNode toContext connection,
        r.outcome = .error (.crossing fromNode fromContext toNode toContext connection) →
        ∃ id t, HasTemplate c s.nodes id t ∧ t.context = .target ∧
          id ∈ bridgedTargets c s.nodes s.connections ∧
          id ∉ bridgedTargets c s.nodes (s.onward c)) ∧
    (c.LoopsOnHost → ∀ r ∈ (compile c s).roots,
      (∃ statements, r.outcome = .ok statements) ∨ ∃ ids, r.outcome = .error (.cycle ids)) ∧
    Catalog.standard.LoopsOnHost := by
  have sound := Script.audit_eq_nil.mp clean
  refine ⟨?_, ?_, standard_loopsOnHost⟩
  · intro r member
    have verdict := Script.root_verdict sound.nodes member
    constructor
    · intro types ids failed
      rw [failed] at verdict
      cases verdict with
      | unknown some sub exact named =>
          rcases List.exists_mem_of_ne_nil ids some with ⟨id, listed⟩
          exact sound.typed id ((exact id).mp listed).2
    · intro fromNode fromContext toNode toContext connection failed
      rw [failed] at verdict
      cases verdict with
      | crossing typed acyclic topological crosses earliest =>
          have drift := sound.drift crosses
          exact ⟨_, _, crosses.from?, drift.1, drift.2.1, drift.2.2⟩
  · intro host r member
    have verdict := Script.root_verdict sound.nodes member
    generalize r.outcome = outcome at verdict ⊢
    cases verdict with
    | unknown some sub exact named =>
        rcases List.exists_mem_of_ne_nil _ some with ⟨id, listed⟩
        exact absurd ((exact id).mp listed).2 (sound.typed id)
    | cycle typed loops => exact Or.inr ⟨_, rfl⟩
    | crossing typed acyclic topological crosses earliest =>
        -- Where loops are re-entered in the host alone, connections that re-enter one bridge nothing.
        have drift := sound.drift crosses
        exact absurd (Script.bridgedTargets_onward sound.nodes host drift.2.1) drift.2.2
    | statements typed acyclic topological legal nodes => exact Or.inl ⟨_, rfl⟩

def loopCatalog (context : Context) : Catalog where
  templates := [
    { type := "event", category := .events, context := .host, label := "Event",
      outputs := [{ name := "exec", type := .flow }] },
    { type := "bridge", category := .functions, context := .host, label := "Bridge", bridge := true,
      outputs := [{ name := "value", type := .any }] },
    { type := "loop", category := .flow, context, label := "Loop", loop := true,
      inputs := [{ name := "next", type := .any, loopBack := true }],
      outputs := [{ name := "value", type := .any }] },
    { type := "show", category := .output, context := .host, label := "Show",
      inputs := [{ name := "exec", type := .flow }, { name := "value", type := .any }] }]
  faultless := by cases context <;> decide

def bridgedLoop : Script :=
  { id := "bridged"
    name := "Bridged loop"
    nodes := [
      { id := "start", type := "event" }, { id := "bridge", type := "bridge" },
      { id := "loop", type := "loop" }, { id := "show", type := "show" }]
    connections := [
      { id := "c0", fromNode := "start", fromPort := "exec", toNode := "show", toPort := "exec" },
      { id := "c1", fromNode := "bridge", fromPort := "value", toNode := "loop", toPort := "next" },
      { id := "c2", fromNode := "loop", fromPort := "value", toNode := "show", toPort := "value" }] }

/-- With the loop in the target the compiler refuses what the audit accepts; in the host it does not. -/
theorem compile_of_audit_bridgedLoop :
    (bridgedLoop.audit (loopCatalog .target) = [] ∧
      ∃ id t, HasTemplate (loopCatalog .target) bridgedLoop.nodes id t ∧ t.context = .target ∧
        id ∈ bridgedTargets (loopCatalog .target) bridgedLoop.nodes bridgedLoop.connections ∧
        id ∉ bridgedTargets (loopCatalog .target) bridgedLoop.nodes
          (bridgedLoop.onward (loopCatalog .target))) ∧
    (bridgedLoop.audit (loopCatalog .host) = [] ∧ (loopCatalog .host).LoopsOnHost ∧
      ∀ r ∈ (compile (loopCatalog .host) bridgedLoop).roots,
        (∃ statements, r.outcome = .ok statements) ∨ ∃ ids, r.outcome = .error (.cycle ids)) := by
  have clean : bridgedLoop.audit (loopCatalog .target) = [] := by decide +kernel
  have clean' : bridgedLoop.audit (loopCatalog .host) = [] := by decide +kernel
  have host : (loopCatalog .host).LoopsOnHost := by
    unfold Catalog.LoopsOnHost
    decide
  have failed : (compile (loopCatalog .target) bridgedLoop).roots =
      [{ event := "start", outcome := .error (.crossing "loop" .target "show" .host "c2") }] := by
    decide +kernel
  have root := List.mem_singleton_self
    (Root.mk "start" (.error (.crossing "loop" .target "show" .host "c2")))
  rw [← failed] at root
  have drift := (compile_of_audit (loopCatalog .target) bridgedLoop clean).1 _ root
  have onHost := (compile_of_audit (loopCatalog .host) bridgedLoop clean').2.1 host
  exact ⟨⟨clean, drift.2 _ _ _ _ _ rfl⟩, clean', host, onHost⟩

end NodeScript
