import NodeScript.Proofs.Script.Audit
import NodeScript.Proofs.Script.Link

/-!
Connections of an audited script, taken out and asked for again. The audit and the check of a link
are two tellings of the same rules, but for one: the audit does not look at the types of the ports.
So the check takes a connection of a clean script again exactly if its types meet, and gives no other
reason for a refusal.
-/
namespace NodeScript

theorem bridgedTargets_erase {c : Catalog} {nodes : List Node} {live : List Connection}
    {k : Connection} (ends : carries c nodes k.toNode = false) :
    bridgedTargets c nodes live ⊆ bridgedTargets c nodes (live.erase k) := by
  intro id fed
  refine bridgedTargets_lift (fun b => b) (fun _ bridge => bridge) (fun _ may => may) ?_ fed
  intro other present may
  have apart : other ≠ k := by
    rintro rfl
    rw [ends] at may
    cases may
  exact mem_edges.mpr ⟨other, (List.mem_erase_of_ne apart).mpr present, rfl, rfl⟩

namespace Script

def without (k : Connection) (s : Script) : Script := { s with connections := s.connections.erase k }

section

variable {c : Catalog} {s : Script} {source target : Template} {output input : Port}

theorem requireNode_of_template {id : Text} (distinct : (s.nodes.map Node.id).Nodup)
    (has : HasTemplate c s.nodes id source) :
    ∃ n, s.requireNode id = .ok n ∧ c.templateOf n = .ok source ∧ n.id = id := by
  rcases has with ⟨n, member, rfl, known⟩
  exact ⟨n, requireNode_iff.mpr (node?_of_mem distinct member), Catalog.templateOf_ok.mpr known, rfl⟩

theorem checkLink_types {l : Link} (distinct : (s.nodes.map Node.id).Nodup)
    (from? : HasTemplate c s.nodes l.fromNode source) (to? : HasTemplate c s.nodes l.toNode target)
    (out : source.output? l.fromPort = some output) (into : target.input? l.toPort = some input)
    (allowed : crossingAllowed l.fromNode source target (s.bridged c) = true)
    (free : s.connectionTo? l.toNode l.toPort = none) :
    s.checkLink c l.draft =
      if typesMeet source target output.type input.type then .ok l
      else .error (.typeMismatch l.fromNode l.fromPort output.type l.toNode l.toPort input.type) := by
  obtain ⟨fromNode, first, known, named⟩ := requireNode_of_template distinct from?
  obtain ⟨toNode, second, known', named'⟩ := requireNode_of_template distinct to?
  have port := Template.output?_name out
  have port' := Template.input?_name into
  unfold checkLink
  simp only [Link.draft, first, second, known, known', ok_bind, Option.bind_some, out, into, named,
    named', port, port', allowed, free]
  by_cases meet : typesMeet source target output.type input.type = true
  · simp only [meet, if_true]
    rfl
  · simp only [meet]
    rfl

theorem Clean.free {k : Connection} (clean : s.Clean c) (member : k ∈ s.connections) :
    (s.without k).connectionTo? k.toNode k.toPort = none := by
  refine connectionTo?_eq_none.mpr fun taken => ?_
  rcases List.mem_map.mp taken with ⟨other, present, same⟩
  have distinct : s.connections.Nodup := clean.connections.of_map _
  obtain ⟨apart, old⟩ := distinct.mem_erase_iff.mp present
  exact apart (List.inj_on_of_nodup_map clean.inputs old member same)

/-- Taking a connection out of a script takes no bridging away that the connection itself needs: one
that needs bridging leaves the target context. -/
theorem Clean.crossing_without {k : Connection} (clean : s.Clean c)
    (to? : HasTemplate c s.nodes k.toNode target)
    (allowed : crossingAllowed k.fromNode source target (s.bridged c) = true) :
    crossingAllowed k.fromNode source target ((s.without k).bridged c) = true := by
  by_cases same : source.context = target.context
  · exact crossingAllowed_iff.mpr (Or.inl same)
  by_cases onward : source.context = .target
  · have ends : carries c s.nodes k.toNode = false := by
      refine Bool.eq_false_iff.mpr fun carrier => ?_
      obtain ⟨t, has, context, _⟩ := (carries_iff_template clean.nodes).mp carrier
      cases has.unique clean.nodes to?
      exact same (onward.trans context.symm)
    exact crossingAllowed_of_fed (bridgedTargets_erase ends ·) allowed
  · rw [crossingAllowed_iff] at allowed ⊢
    tauto

end

/-- What the check of a link says to a connection of a clean script that was taken out of it. -/
theorem checkLink_of_audit (c : Catalog) (s : Script) (clean : s.audit c = []) (k : Connection)
    (member : k ∈ s.connections) :
    ∃ source target output input,
      HasTemplate c s.nodes k.fromNode source ∧ HasTemplate c s.nodes k.toNode target ∧
      source.output? k.fromPort = some output ∧ target.input? k.toPort = some input ∧
      (s.without k).checkLink c k.link.draft =
        if typesMeet source target output.type input.type then .ok k.link
        else .error (.typeMismatch k.fromNode k.fromPort output.type k.toNode k.toPort input.type) := by
  have sound := audit_eq_nil.mp clean
  obtain ⟨source, target, from?, to?, out, into, allowed⟩ := sound.wired k member
  obtain ⟨output, out⟩ := Option.isSome_iff_exists.mp out
  obtain ⟨input, into⟩ := Option.isSome_iff_exists.mp into
  refine ⟨source, target, output, input, from?, to?, out, into, ?_⟩
  exact checkLink_types (s := s.without k) (l := k.link) sound.nodes from? to? out into
    (sound.crossing_without to? allowed) (sound.free member)

def typedCatalog : Catalog where
  templates := [
    { type := "number", category := .constants, context := .host, label := "Number",
      outputs := [{ name := "value", type := .number }] },
    { type := "upper", category := .strings, context := .host, label := "Upper case",
      inputs := [{ name := "text", type := .string }],
      outputs := [{ name := "text", type := .string }] },
    { type := "show", category := .output, context := .host, label := "Show",
      inputs := [{ name := "value", type := .any }] }]
  faultless := by decide

def fromNumber : Connection :=
  { id := "c0", fromNode := "n", fromPort := "value", toNode := "u", toPort := "text" }

def toShow : Connection :=
  { id := "c1", fromNode := "u", fromPort := "text", toNode := "o", toPort := "value" }

/-- A number is wired to an input of texts. -/
def mistyped : Script :=
  { id := "s"
    name := "Main"
    nodes := [{ id := "n", type := "number" }, { id := "u", type := "upper" },
      { id := "o", type := "show" }]
    connections := [fromNumber, toShow] }

/-- One connection of the script is taken again. -/
theorem checkLink_of_audit_shown :
    mistyped.audit typedCatalog = [] ∧ toShow ∈ mistyped.connections ∧
      ∃ source target output input,
        HasTemplate typedCatalog mistyped.nodes "u" source ∧
        HasTemplate typedCatalog mistyped.nodes "o" target ∧
        source.output? "text" = some output ∧ target.input? "value" = some input ∧
        (mistyped.without toShow).checkLink typedCatalog toShow.link.draft =
          if typesMeet source target output.type input.type then .ok toShow.link
          else .error (.typeMismatch "u" "text" output.type "o" "value" input.type) := by
  have clean : mistyped.audit typedCatalog = [] := by decide +kernel
  have member : toShow ∈ mistyped.connections := by decide
  exact ⟨clean, member, checkLink_of_audit typedCatalog mistyped clean toShow member⟩

/-- The audit has nothing to say about the other one, which the check refuses. -/
theorem audit_misses_types :
    mistyped.audit typedCatalog = [] ∧ fromNumber ∈ mistyped.connections ∧
      (mistyped.without fromNumber).checkLink typedCatalog fromNumber.link.draft =
        .error (.typeMismatch "n" "value" .number "u" "text" .string) ∧
      (mistyped.without fromNumber).canConnect typedCatalog fromNumber.link.draft = false := by
  refine ⟨by decide +kernel, by decide, by decide +kernel, by decide +kernel⟩

end Script

end NodeScript
