import NodeScript.Proofs.Program.Coverage

/-!
What a cycle error names. Nodes that no other one left over leads to are taken away one after the
other, and from what stays the nodes that lead to no other. In whatever order that is done, the
nodes that stay in the end are those that lie on a cycle or on a way from one cycle to another.
-/
namespace NodeScript

section

variable {α : Type} {edges : List (α × α)} {rest : List α} {a b : α}

/-- A cycle leads to the node, and it is on the way itself. -/
def Behind (edges : List (α × α)) (rest : List α) (b : α) : Prop :=
  ∃ a, Relation.TransGen (Within edges rest) a a ∧ Relation.ReflTransGen (Within edges rest) a b

/-- The node leads to a cycle, or is on one. -/
def Before (edges : List (α × α)) (rest : List α) (b : α) : Prop :=
  ∃ a, Relation.ReflTransGen (Within edges rest) b a ∧ Relation.TransGen (Within edges rest) a a

theorem behind_mem (behind : Behind edges rest b) : b ∈ rest := by
  rcases behind with ⟨a, round, path⟩
  rcases path.cases_tail with rfl | ⟨_, _, step⟩
  · obtain ⟨_, step, _⟩ := Relation.TransGen.head'_iff.mp round
    exact step.2.1
  · exact step.2.2

theorem behind_step (behind : Behind edges rest a) (step : Within edges rest a b) :
    Behind edges rest b := by
  rcases behind with ⟨first, round, path⟩
  exact ⟨first, round, path.tail step⟩

theorem behind_led (behind : Behind edges rest b) :
    ∃ a, Behind edges rest a ∧ (a, b) ∈ edges := by
  rcases behind with ⟨a, round, path⟩
  rcases path.cases_tail with rfl | ⟨x, before, step⟩
  · obtain ⟨x, before, step⟩ := Relation.TransGen.tail'_iff.mp round
    exact ⟨x, ⟨b, round, before⟩, step.1⟩
  · exact ⟨x, ⟨a, round, before⟩, step.1⟩

theorem Behind.mono {more : List α} (sub : rest ⊆ more) (behind : Behind edges rest b) :
    Behind edges more b := by
  rcases behind with ⟨a, round, path⟩
  exact ⟨a, Relation.TransGen.mono (fun _ _ step => within_mono sub step) _ _ round,
    Relation.ReflTransGen.mono (fun _ _ step => within_mono sub step) _ _ path⟩

theorem within_swapped : Within (edges.map Prod.swap) rest = Function.swap (Within edges rest) := by
  funext a b
  simp only [Within, Function.swap, List.mem_map, Prod.exists, Prod.swap_prod_mk, Prod.mk.injEq]
  grind

theorem behind_swapped : Behind (edges.map Prod.swap) rest b ↔ Before edges rest b := by
  simp only [Behind, Before, within_swapped, Relation.transGen_swap, Relation.reflTransGen_swap,
    and_comm]

end

section

variable {α : Type} [DecidableEq α] {edges : List (α × α)} {rest left : List α} {a b : α}

/-- Taking nodes away, in any order, that no node left over leads to, until there are no more. -/
inductive Peels (edges : List (α × α)) : List α → List α → Prop where
  | stop {rest : List α} (blocked : ∀ a ∈ rest, ready edges rest a = false) : Peels edges rest rest
  | take {rest left : List α} {a : α} (member : a ∈ rest) (free : ready edges rest a = true)
      (later : Peels edges (rest.erase a) left) : Peels edges rest left

theorem schedule_peels (edges : List (α × α)) (rest : List α) :
    Peels edges rest (schedule edges rest).2 := by
  fun_induction schedule edges rest with
  | case1 rest none =>
      exact .stop fun a member => Bool.eq_false_iff.mpr (List.find?_eq_none.mp none a member)
  | case2 rest a found order left split ih =>
      rw [split] at ih
      exact .take (List.mem_of_find?_eq_some found) (List.find?_some found) ih

/-- To lead to nothing is to be led to by nothing along the turned edges. -/
theorem isLast_eq (edges : List (α × α)) (rest : List α) (a : α) :
    isLast edges rest a = ready (edges.map Prod.swap) rest a := by
  simp [isLast, ready, Function.comp_def]

theorem core_peels (edges : List (α × α)) (rest : List α) :
    Peels (edges.map Prod.swap) rest (core edges rest) := by
  fun_induction core edges rest with
  | case1 rest none =>
      refine .stop fun a member => ?_
      rw [← isLast_eq]
      exact Bool.eq_false_iff.mpr (List.find?_eq_none.mp none a member)
  | case2 rest a found ih =>
      refine .take (List.mem_of_find?_eq_some found) ?_ ih
      rw [← isLast_eq]
      exact List.find?_some found

theorem Peels.sublist (peels : Peels edges rest left) : left.Sublist rest := by
  induction peels with
  | stop => exact List.Sublist.refl _
  | take _ _ _ ih => exact ih.trans List.erase_sublist

theorem Peels.led (peels : Peels edges rest left) (stays : b ∈ left) :
    ∃ a ∈ left, (a, b) ∈ edges := by
  induction peels with
  | stop blocked =>
      have one := blocked b stays
      rw [Bool.eq_false_iff, ne_eq, ready_iff] at one
      push Not at one
      rcases one with ⟨a, edge, member⟩
      exact ⟨a, member, edge⟩
  | take _ _ _ ih => exact ih stays

theorem Peels.keeps {kept : α → Prop} (peels : Peels edges rest left)
    (led : ∀ b, kept b → ∃ a, kept a ∧ (a, b) ∈ edges) (inside : ∀ b, kept b → b ∈ rest) :
    ∀ b, kept b → b ∈ left := by
  induction peels with
  | stop => exact inside
  | @take rest left x member free later ih =>
      apply ih
      intro b good
      -- The first of these nodes to be taken away would be led to by one that is still there.
      have other : b ≠ x := by
        rintro rfl
        rcases led b good with ⟨a, good', edge⟩
        exact ready_iff.mp free a edge (inside a good')
      exact (List.mem_erase_of_ne other).mpr (inside b good)

/-- Where each node is led to by one of them, going back from any of them must come round. -/
theorem behind_of_led (led : ∀ b ∈ left, ∃ a ∈ left, (a, b) ∈ edges) (member : b ∈ left) :
    Behind edges left b := by
  classical
  let sources := left.filter fun a => decide (Relation.ReflTransGen (Within edges left) a b)
  have source (a : α) : a ∈ sources ↔ a ∈ left ∧ Relation.ReflTransGen (Within edges left) a b := by
    simp only [sources, List.mem_filter, decide_eq_true_eq]
  have turned : ∀ x ∈ sources, ∃ a ∈ sources, (a, x) ∈ edges := by
    intro x here
    obtain ⟨inside, path⟩ := (source x).mp here
    rcases led x inside with ⟨a, first, edge⟩
    exact ⟨a, (source a).mpr ⟨first, path.head ⟨edge, first, inside⟩⟩, edge⟩
  have some : sources ≠ [] := List.ne_nil_of_mem ((source b).mpr ⟨member, .refl⟩)
  rcases cyclic_of_led some turned with ⟨a, round⟩
  obtain ⟨x, step, _⟩ := Relation.TransGen.head'_iff.mp round
  have sub : sources ⊆ left := List.filter_subset_self _
  exact ⟨a, Relation.TransGen.mono (fun _ _ step => within_mono sub step) _ _ round,
    ((source a).mp step.2.1).2⟩

/-- However the nodes are taken away, those behind cycles stay. -/
theorem Peels.mem_iff (peels : Peels edges rest left) : b ∈ left ↔ Behind edges rest b := by
  constructor
  · intro stays
    exact (behind_of_led (fun _ here => peels.led here) stays).mono peels.sublist.subset
  · exact peels.keeps (fun _ => behind_led) (fun _ => behind_mem) b

theorem Peels.within (peels : Peels edges rest left) (inside : a ∈ left)
    (path : Relation.ReflTransGen (Within edges rest) a b) :
    b ∈ left ∧ Relation.ReflTransGen (Within edges left) a b := by
  induction path with
  | refl => exact ⟨inside, .refl⟩
  | tail _ step ih =>
      obtain ⟨here, path⟩ := ih
      have next := peels.mem_iff.mpr (behind_step (peels.mem_iff.mp here) step)
      exact ⟨next, path.tail ⟨step.1, here, next⟩⟩

/-- However nodes are taken away from both ends, those stay that cycles lead to and that lead to
cycles. -/
theorem Peels.both {knot : List α} (first : Peels edges rest left)
    (second : Peels (edges.map Prod.swap) left knot) :
    b ∈ knot ↔ Behind edges rest b ∧ Before edges rest b := by
  rw [second.mem_iff, behind_swapped]
  constructor
  · intro before
    have stays : b ∈ left := second.sublist.subset (second.mem_iff.mpr (behind_swapped.mpr before))
    have more := (behind_swapped.mpr before).mono first.sublist.subset
    exact ⟨first.mem_iff.mp stays, behind_swapped.mp more⟩
  · rintro ⟨behind, a, path, round⟩
    obtain ⟨here, path⟩ := first.within (first.mem_iff.mpr behind) path
    obtain ⟨x, step, back⟩ := Relation.TransGen.head'_iff.mp round
    obtain ⟨next, out⟩ := first.within here (.single step)
    obtain ⟨_, back⟩ := first.within next back
    exact ⟨a, path, .head' ⟨step.1, here, next⟩ back⟩

end

def Root.error? (r : Root) : Option Diagnostic :=
  match r.outcome with
  | .error error => some error.diagnostic
  | .ok _ => none

namespace Script

def Linked (c : Catalog) (s : Script) (event a b : Text) : Prop :=
  s.Step c a b ∧ s.Member c event a ∧ s.Member c event b

section

variable {c : Catalog} {s : Script} {event id : Text}

/-- The nodes that a cycle error names. -/
def knot (c : Catalog) (s : Script) (event : Text) : List Text :=
  let arrows := edges (Wiring.ofScript c s).active
  core arrows (schedule arrows ((Wiring.ofScript c s).members c event)).2

theorem mem_knot (distinct : (s.nodes.map Node.id).Nodup) (named : event ∈ s.nodes.map Node.id) :
    id ∈ s.knot c event ↔
      (∃ a, Relation.TransGen (s.Linked c event) a a ∧ Relation.ReflTransGen (s.Linked c event) a id) ∧
        ∃ a, Relation.ReflTransGen (s.Linked c event) id a ∧
          Relation.TransGen (s.Linked c event) a a := by
  rw [knot, (schedule_peels _ _).both (core_peels _ _), Behind, Before, within_members distinct named]
  exact Iff.rfl

theorem knot_sublist (distinct : (s.nodes.map Node.id).Nodup) :
    (s.knot c event).Sublist (s.nodes.map Node.id) :=
  (core_peels _ _).sublist.trans
    ((schedule_peels _ _).sublist.trans (Wiring.members_sublist distinct))

theorem outcome_of_loops {r : Root} (distinct : (s.nodes.map Node.id).Nodup)
    (member : r ∈ (compile c s).roots) (typed : ∀ id, s.Member c r.event id → ¬s.Untyped c id)
    (loops : s.Loops c r.event) : r.outcome = .error (.cycle (s.knot c r.event)) := by
  have named := root_named member
  have known : (Wiring.ofScript c s).unknownMembers c ((Wiring.ofScript c s).members c r.event) = [] := by
    rw [Wiring.unknownMembers_eq_nil]
    intro id inside
    have inside := (Wiring.mem_members distinct named).mp inside
    rw [Option.isSome_iff_ne_none, ne_eq, ← untyped_iff distinct (Wiring.member_named named inside)]
    exact typed id inside
  have stays : (schedule (edges (Wiring.ofScript c s).active)
      ((Wiring.ofScript c s).members c r.event)).2 ≠ [] :=
    fun none => left_eq_nil.mp none ((loops_iff distinct named).mp loops)
  rw [root_outcome member, compileMembers_eq, known, if_neg (not_not.mpr rfl), if_pos stays, knot]

theorem error?_cycle {r : Root} {d : Diagnostic} (distinct : (s.nodes.map Node.id).Nodup)
    (member : r ∈ (compile c s).roots) (typed : ∀ id, s.Member c r.event id → ¬s.Untyped c id) :
    r.error? = some d ∧ d.kind = .cyclicGraph ↔
      s.Loops c r.event ∧ d = (CompileError.cycle (s.knot c r.event)).diagnostic := by
  constructor
  · rintro ⟨told, kind⟩
    have verdict := root_verdict distinct member
    have loops : s.Loops c r.event := by
      cases outcome : r.outcome with
      | ok statements =>
          rw [Root.error?, outcome] at told
          cases told
      | error e =>
          rw [Root.error?, outcome] at told
          cases told
          rw [outcome] at verdict
          cases verdict with
          | unknown | crossing => cases kind
          | cycle typed loops => exact loops
    rw [Root.error?, outcome_of_loops distinct member typed loops] at told
    exact ⟨loops, (Option.some.inj told).symm⟩
  · rintro ⟨loops, rfl⟩
    rw [Root.error?, outcome_of_loops distinct member typed loops]
    exact ⟨rfl, rfl⟩

end

end Script

/-- Where all members of an event have known types, it gets a cycle error just if active connections
between them lead round. The error names, in the order of the script and each once, the members that a
cycle leads to and that lead to a cycle. -/
theorem compile_cycle (c : Catalog) (s : Script) (distinct : (s.nodes.map Node.id).Nodup) :
    ∀ r ∈ (compile c s).roots, (∀ id, s.Member c r.event id → ¬s.Untyped c id) →
      ((∃ d, r.error? = some d ∧ d.kind = .cyclicGraph) ↔
        ∃ a, Relation.TransGen (s.Linked c r.event) a a) ∧
      ∀ d, r.error? = some d → d.kind = .cyclicGraph →
        d.nodes.Sublist (s.nodes.map Node.id) ∧ d.nodes.Nodup ∧
          ∀ id, id ∈ d.nodes ↔
            (∃ a, Relation.TransGen (s.Linked c r.event) a a ∧
              Relation.ReflTransGen (s.Linked c r.event) a id) ∧
            ∃ a, Relation.ReflTransGen (s.Linked c r.event) id a ∧
              Relation.TransGen (s.Linked c r.event) a a := by
  intro r member typed
  constructor
  · simp only [Script.error?_cycle distinct member typed]
    exact ⟨fun ⟨_, loops, _⟩ => loops, fun loops => ⟨_, loops, rfl⟩⟩
  · intro d told kind
    obtain ⟨_, rfl⟩ := (Script.error?_cycle distinct member typed).mp ⟨told, kind⟩
    have sub : (s.knot c r.event).Sublist (s.nodes.map Node.id) := Script.knot_sublist distinct
    exact ⟨sub, distinct.sublist sub, fun id => Script.mem_knot distinct (Script.root_named member)⟩

/-- Two circles with a node between them, all behind a loop. -/
def knotted : Script :=
  { id := "knotted"
    name := "Knotted"
    nodes := [
      { id := "last", type := "step" }, { id := "self", type := "step" },
      { id := "mid", type := "step" }, { id := "there", type := "step" },
      { id := "here", type := "step" }, { id := "turn", type := "step" },
      { id := "loop", type := "loop" }, { id := "start", type := "event" }]
    connections := [
      { id := "c0", fromNode := "start", fromPort := "exec", toNode := "loop", toPort := "exec" },
      { id := "c1", fromNode := "loop", fromPort := "body", toNode := "turn", toPort := "exec" },
      { id := "c2", fromNode := "turn", fromPort := "exec", toNode := "loop", toPort := "next" },
      { id := "c3", fromNode := "turn", fromPort := "exec", toNode := "here", toPort := "exec" },
      { id := "c4", fromNode := "here", fromPort := "exec", toNode := "there", toPort := "exec" },
      { id := "c5", fromNode := "there", fromPort := "exec", toNode := "here", toPort := "exec" },
      { id := "c6", fromNode := "there", fromPort := "exec", toNode := "mid", toPort := "exec" },
      { id := "c7", fromNode := "mid", fromPort := "exec", toNode := "self", toPort := "exec" },
      { id := "c8", fromNode := "self", fromPort := "exec", toNode := "self", toPort := "exec" },
      { id := "c9", fromNode := "self", fromPort := "exec", toNode := "last", toPort := "exec" }] }

theorem compile_cycle_knotted :
    (knotted.nodes.map Node.id).Nodup ∧
      (∀ id, knotted.Member plainCatalog "start" id → ¬knotted.Untyped plainCatalog id) ∧
      (∃ a, Relation.TransGen (knotted.Linked plainCatalog "start") a a) ∧
      ∀ id, id ∈ (["self", "mid", "there", "here"] : List Text) ↔
        (∃ a, Relation.TransGen (knotted.Linked plainCatalog "start") a a ∧
          Relation.ReflTransGen (knotted.Linked plainCatalog "start") a id) ∧
        ∃ a, Relation.ReflTransGen (knotted.Linked plainCatalog "start") id a ∧
          Relation.TransGen (knotted.Linked plainCatalog "start") a a := by
  have distinct : (knotted.nodes.map Node.id).Nodup := by decide
  have known : ∀ n ∈ knotted.nodes, plainCatalog.find? n.type ≠ none := by decide
  have typed : ∀ id, knotted.Member plainCatalog "start" id → ¬knotted.Untyped plainCatalog id :=
    fun id _ untyped => by
      rcases untyped with ⟨n, present, _, none⟩
      exact known n present none
  have compiled : (compile plainCatalog knotted).roots =
      [{ event := "start", outcome := .error (.cycle (["self", "mid", "there", "here"] : List Text)) }] := by
    decide +kernel
  have root := List.mem_singleton_self
    (Root.mk "start" (.error (.cycle (["self", "mid", "there", "here"] : List Text))))
  rw [← compiled] at root
  obtain ⟨loops, told⟩ := compile_cycle plainCatalog knotted distinct _ root typed
  exact ⟨distinct, typed, loops.mp ⟨_, rfl, rfl⟩, (told _ rfl rfl).2.2⟩

end NodeScript
