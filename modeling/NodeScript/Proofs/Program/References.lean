import NodeScript.Proofs.Decimal.Digits
import NodeScript.Proofs.Program.Carried

/-!
The variables that references name. A statement holds its value in a variable made of its type and its
index, another event in one made of its id, with a low line for every letter that is in no word. The
index tells statements apart whatever their types are, so references to statements are never mixed up.
Ids that differ only in letters that are replaced, and a type and an index that spell what an id makes,
are the two ways in which references to different sources name one variable.
-/
namespace NodeScript

namespace Argument

def holder? : Argument → Option Text
  | .literal .. => none
  | .ref _ holder _ _ => some holder

end Argument

/-- Different sources whose values are held in one variable, given the statements of the event. -/
inductive Confused (statements : List Statement) : Text → Text → Prop where
  | events {a b : Text} (apart : a ≠ b) (outside : a ∉ statements.map Statement.node)
      (outside' : b ∉ statements.map Statement.node) (same : a.wordOnly = b.wordOnly) :
      Confused statements a b
  | statement {st : Statement} {b : Text} (listed : st ∈ statements)
      (outside : b ∉ statements.map Statement.node)
      (same : holderName st.type st.index = foreignHolder b) : Confused statements st.node b
  | event {a : Text} {st : Statement} (outside : a ∉ statements.map Statement.node)
      (listed : st ∈ statements) (same : foreignHolder a = holderName st.type st.index) :
      Confused statements a st.node

namespace Script

/-- The argument of the node is what a connection from the source brings. -/
def RefersTo (s : Script) (node : Text) (a : Argument) (source : Text) : Prop :=
  ∃ k ∈ s.connections, k.toNode = node ∧ k.fromNode = source ∧
    ∃ holder marshalled, a = .ref k.toPort holder k.fromPort marshalled

/-- Every reference of the statements has one source, which has a statement or is another event; and
two references name one variable just if their sources are the same or are confused. -/
structure Referenced (c : Catalog) (s : Script) (statements : List Statement) : Prop where
  sourced : ∀ st ∈ statements, ∀ a ∈ st.args, a.holder?.isSome = true →
    ∃! source, s.RefersTo st.node a source
  held : ∀ st ∈ statements, ∀ a ∈ st.args, ∀ source, s.RefersTo st.node a source →
    source ∈ statements.map Statement.node ∨ s.EventAt c source
  named : ∀ st ∈ statements, ∀ a ∈ st.args, ∀ source, s.RefersTo st.node a source →
    ∀ st' ∈ statements, ∀ a' ∈ st'.args, ∀ source', s.RefersTo st'.node a' source' →
      (a.holder? = a'.holder? ↔ source = source' ∨ Confused statements source source')

end Script

/-- The index is what stands behind the last low line of the variable of a statement. -/
theorem holderName_index {type type' : Text} {i j : Nat} (same : holderName type i = holderName type' j) :
    i = j := by
  have letters (type : Text) (i : Nat) : (holderName type i).letters =
      type.letters ++ Letter.char '_' :: (Nat.toDigits 10 i).map Letter.char := by
    rw [← Decimal.letters_natText]
    exact List.append_assoc type.letters [Letter.char '_'] _
  have spelled := congrArg Text.letters same
  rw [letters, letters] at spelled
  have digits : Nat.toDigits 10 i = Nat.toDigits 10 j := by
    apply List.map_injective_iff.mpr fun _ _ => Letter.char.inj
    rw [← Decimal.digits_behind_lowLine type.letters i, spelled, Decimal.digits_behind_lowLine]
  rw [← Decimal.digitsValue_toDigits i, digits, Decimal.digitsValue_toDigits]

theorem foreignHolder_eq_iff {a b : Text} : foreignHolder a = foreignHolder b ↔ a.wordOnly = b.wordOnly := by
  constructor
  · intro same
    have letters := List.append_cancel_left (congrArg Text.letters same)
    exact congrArg Text.mk letters
  · intro same
    rw [foreignHolder, same, foreignHolder]

namespace Wiring

section

variable {c : Catalog} {w : Wiring} {order : List Text} {index : Nat} {st other : Statement} {id a b : Text}

theorem holderOf_statement (distinct : order.Nodup) (listed : st ∈ w.statementsFrom c order 0 order) :
    w.holderOf order st.node = holderName st.type st.index := by
  obtain ⟨i, n, t, placed, found, _, same⟩ := mem_statementsFrom.mp listed
  rw [Nat.zero_add] at same
  subst same
  simp only [statement, holderOf, idxOf?_of_getElem? distinct placed, found, Option.elim_some]

theorem holderOf_outside (outside : id ∉ order) : w.holderOf order id = foreignHolder id := by
  simp only [holderOf, List.idxOf?_eq_none_iff.mpr outside]

theorem node_of_index (listed : st ∈ w.statementsFrom c order 0 order)
    (listed' : other ∈ w.statementsFrom c order 0 order) (same : st.index = other.index) :
    st.node = other.node := by
  obtain ⟨i, n, t, placed, _, _, rfl⟩ := mem_statementsFrom.mp listed
  obtain ⟨j, m, u, placed', _, _, rfl⟩ := mem_statementsFrom.mp listed'
  have place : i = j := Nat.add_left_cancel same
  rw [place, placed'] at placed
  exact (Option.some.inj placed).symm

theorem holderOf_eq_iff (distinct : order.Nodup)
    (nodes : (w.statementsFrom c order 0 order).map Statement.node = order) :
    w.holderOf order a = w.holderOf order b ↔ a = b ∨ Confused (w.statementsFrom c order 0 order) a b := by
  have inside {id : Text} (placed : id ∈ order) :
      ∃ st ∈ w.statementsFrom c order 0 order, st.node = id := by
    rw [← List.mem_map, nodes]
    exact placed
  have outside {id : Text} (away : id ∉ order) :
      id ∉ (w.statementsFrom c order 0 order).map Statement.node := by
    rw [nodes]
    exact away
  constructor
  · intro same
    -- Two members differ in their index; a member and an event outside, or two of these, may be confused.
    by_cases first : a ∈ order <;> by_cases second : b ∈ order
    · obtain ⟨st, listed, rfl⟩ := inside first
      obtain ⟨st', listed', rfl⟩ := inside second
      rw [holderOf_statement distinct listed, holderOf_statement distinct listed'] at same
      exact Or.inl (node_of_index listed listed' (holderName_index same))
    · obtain ⟨st, listed, rfl⟩ := inside first
      rw [holderOf_statement distinct listed, holderOf_outside second] at same
      exact Or.inr (.statement listed (outside second) same)
    · obtain ⟨st, listed, rfl⟩ := inside second
      rw [holderOf_outside first, holderOf_statement distinct listed] at same
      exact Or.inr (.event (outside first) listed same)
    · rw [holderOf_outside first, holderOf_outside second, foreignHolder_eq_iff] at same
      by_cases one : a = b
      · exact Or.inl one
      · exact Or.inr (.events one (outside first) (outside second) same)
  · intro told
    rcases told with rfl | confused
    · rfl
    · cases confused with
      | events _ away away' same =>
          rw [nodes] at away away'
          rw [holderOf_outside away, holderOf_outside away', foreignHolder_eq_iff, same]
      | statement listed away same =>
          rw [nodes] at away
          rw [holderOf_statement distinct listed, holderOf_outside away, same]
      | event away listed same =>
          rw [nodes] at away
          rw [holderOf_outside away, holderOf_statement distinct listed, same]

end

end Wiring

namespace Script

section

variable {c : Catalog} {s : Script} {order : List Text} {t : Template} {params : Members} {port : Port}
  {node source holder : Text}

theorem argument_ref
    (named : ((Wiring.ofScript c s).argument c order t params node port).holder? = some holder) :
    ∃ k ∈ (Wiring.ofScript c s).active, k.input = (node, port.name) ∧ ∃ marshalled,
      (Wiring.ofScript c s).argument c order t params node port =
        .ref k.toPort ((Wiring.ofScript c s).holderOf order k.fromNode) k.fromPort marshalled := by
  unfold Wiring.argument at named ⊢
  cases wired : ((Wiring.ofScript c s).incoming node).reverse.find? (·.toPort = port.name) with
  | none => simp [wired, Argument.holder?] at named
  | some k =>
      have arrives := List.mem_reverse.mp (List.mem_of_find?_eq_some wired)
      obtain ⟨active, to?⟩ := List.mem_filter.mp arrives
      have port? : k.toPort = port.name := by simpa using List.find?_some wired
      exact ⟨k, active, Prod.ext (of_decide_eq_true to?) port?, _, by rw [port?]⟩

theorem RefersTo.wired (single : s.SingleInputs c) (has : HasTemplate c s.nodes node t)
    (listed : port ∈ t.inputs)
    (refers : s.RefersTo node ((Wiring.ofScript c s).argument c order t params node port) source) :
    ∃ k ∈ (Wiring.ofScript c s).active, k.input = (node, port.name) ∧ k.fromNode = source ∧
      ((Wiring.ofScript c s).argument c order t params node port).holder? =
        some ((Wiring.ofScript c s).holderOf order source) := by
  obtain ⟨l, present, to?, rfl, holder, marshalled, same⟩ := refers
  obtain ⟨k, active, ends, marshalled', same'⟩ := argument_ref (congrArg Argument.holder? same)
  have port? : k.toPort = l.toPort := (Argument.ref.inj (same'.symm.trans same)).1
  have ends' : l.input = (node, port.name) := by
    rw [← ends, Connection.input, Connection.input, to?, port?, (Prod.mk.inj ends).1]
  have one : k = l :=
    single node t has port listed k (mem_connections_of_active active) l present ends ends'
  subst one
  exact ⟨k, active, ends, rfl, congrArg Argument.holder? same'⟩

theorem statementsFrom_referenced {event : Text} (distinct : (s.nodes.map Node.id).Nodup)
    (single : s.SingleInputs c) (topological : s.Topological c event (s.order c event))
    (nodes : ((Wiring.ofScript c s).statementsFrom c (s.order c event) 0 (s.order c event)).map
      Statement.node = s.order c event) :
    s.Referenced c ((Wiring.ofScript c s).statementsFrom c (s.order c event) 0 (s.order c event)) := by
  have wired {st : Statement} {a : Argument}
      (listed : st ∈ (Wiring.ofScript c s).statementsFrom c (s.order c event) 0 (s.order c event))
      (own : a ∈ st.args) : ∃ t params port, HasTemplate c s.nodes st.node t ∧ port ∈ t.inputs ∧
        a = (Wiring.ofScript c s).argument c (s.order c event) t params st.node port := by
    obtain ⟨i, n, present, t, _, typed, rfl⟩ := mem_compiled listed
    obtain ⟨port, input, rfl⟩ := List.mem_map.mp own
    exact ⟨t, _, port, ⟨n, present, rfl, typed⟩, List.mem_of_mem_filter input, rfl⟩
  refine ⟨?_, ?_, ?_⟩
  · intro st listed a own named
    obtain ⟨t, params, port, has, input, rfl⟩ := wired listed own
    obtain ⟨holder, named⟩ := Option.isSome_iff_exists.mp named
    obtain ⟨k, active, ends, marshalled, same⟩ := argument_ref named
    have present := mem_connections_of_active active
    refine ⟨k.fromNode, ⟨k, present, (Prod.mk.inj ends).1, rfl, _, _, same⟩, ?_⟩
    intro other refers
    obtain ⟨l, active', ends', rfl, _⟩ := refers.wired single has input
    rw [single st.node t has port input k present l (mem_connections_of_active active') ends ends']
  · intro st listed a own source refers
    obtain ⟨t, params, port, has, input, rfl⟩ := wired listed own
    obtain ⟨k, active, ends, rfl, _⟩ := refers.wired single has input
    have inside : s.Member c event k.toNode := by
      rw [(Prod.mk.inj ends).1, ← topological.members, ← nodes]
      exact List.mem_map_of_mem listed
    rw [nodes, topological.members]
    exact inside.source ⟨k, (Wiring.mem_active distinct).mp active, rfl, rfl⟩
  · intro st listed a own source refers st' listed' a' own' source' refers'
    obtain ⟨t, params, port, has, input, rfl⟩ := wired listed own
    obtain ⟨t', params', port', has', input', rfl⟩ := wired listed' own'
    obtain ⟨_, _, _, _, named⟩ := refers.wired single has input
    obtain ⟨_, _, _, _, named'⟩ := refers'.wired single has' input'
    rw [named, named', Option.some.injEq]
    exact Wiring.holderOf_eq_iff topological.distinct nodes

end

end Script

/-- Where no input takes two connections, the references of every event that compiles name one variable
just for one source, those that are confused apart. -/
theorem compile_referenced (c : Catalog) (s : Script) (distinct : (s.nodes.map Node.id).Nodup)
    (single : s.SingleInputs c) :
    ∀ r ∈ (compile c s).roots, ∀ statements, r.outcome = .ok statements → s.Referenced c statements := by
  intro r member statements ok
  have compiled := Script.root_ok member ok
  have verdict := Script.root_verdict distinct member
  rw [ok] at verdict
  cases verdict with
  | statements typed acyclic topological legal nodes =>
      subst compiled
      exact Script.statementsFrom_referenced distinct single topological nodes

/-- A step that takes a value of each of two events whose ids differ in one letter. -/
def mistaken : Script :=
  { id := "mistaken"
    name := "Mistaken"
    nodes := [
      { id := "start", type := "event" }, { id := "tick-1", type := "event" },
      { id := "tick_1", type := "event" }, { id := "step", type := "step" }]
    connections := [
      { id := "c0", fromNode := "start", fromPort := "exec", toNode := "step", toPort := "exec" },
      { id := "c1", fromNode := "tick-1", fromPort := "value", toNode := "step", toPort := "a" },
      { id := "c2", fromNode := "tick_1", fromPort := "value", toNode := "step", toPort := "b" }] }

def mistakenStatements : List Statement := [
  { index := 0, node := "start", type := "event", context := .host, kind := .event, holder := "event_0"
    flow := [("exec", ["step"])] },
  { index := 1, node := "step", type := "step", context := .target, kind := .bridge, holder := "step_1"
    args := [.ref "a" "event_tick_1" "value" true, .ref "b" "event_tick_1" "value" true,
      .literal "c" (.int 1)]
    params := [("c", .int 1)]
    flow := [("exec", [])] }]

theorem mistaken_distinct : (mistaken.nodes.map Node.id).Nodup := by decide

theorem mistaken_single : mistaken.SingleInputs wiredCatalog := Script.singleInputs_of_nodup (by decide)

theorem mistaken_root :
    (compile wiredCatalog mistaken).roots.head? = some ⟨"start", .ok mistakenStatements⟩ := by decide +kernel

theorem compile_referenced_mistaken :
    (mistaken.nodes.map Node.id).Nodup ∧ mistaken.SingleInputs wiredCatalog ∧
      ∃ r ∈ (compile wiredCatalog mistaken).roots, r.outcome = .ok mistakenStatements ∧
        mistaken.Referenced wiredCatalog mistakenStatements :=
  ⟨mistaken_distinct, mistaken_single, _, List.mem_of_head? mistaken_root, rfl,
    compile_referenced wiredCatalog mistaken mistaken_distinct mistaken_single _
      (List.mem_of_head? mistaken_root) mistakenStatements rfl⟩

/-- The two references of the step to different events name one variable. -/
theorem references_mistaken :
    (mistaken.nodes.map Node.id).Nodup ∧ mistaken.SingleInputs wiredCatalog ∧
      ∃ r ∈ (compile wiredCatalog mistaken).roots, ∃ statements, r.outcome = .ok statements ∧
        ∃ st ∈ statements, ∃ a ∈ st.args, ∃ a' ∈ st.args,
          mistaken.RefersTo st.node a "tick-1" ∧ mistaken.RefersTo st.node a' "tick_1" ∧
            a.holder? = some "event_tick_1" ∧ a'.holder? = some "event_tick_1" := by
  refine ⟨mistaken_distinct, mistaken_single, _, List.mem_of_head? mistaken_root, mistakenStatements, rfl, _,
    List.mem_cons_of_mem _ List.mem_cons_self, .ref "a" "event_tick_1" "value" true, by decide,
    .ref "b" "event_tick_1" "value" true, by decide, ?_, ?_, rfl, rfl⟩
  · exact ⟨_, List.mem_cons_of_mem _ List.mem_cons_self, rfl, rfl, _, _, rfl⟩
  · exact ⟨_, List.mem_cons_of_mem _ (List.mem_cons_of_mem _ List.mem_cons_self), rfl, rfl, _, _, rfl⟩

end NodeScript
