import NodeScript.Proofs.Program.Carried
import NodeScript.Proofs.Renaming

/-!
Connections in another order. Searches find the same whatever the order in which edges are followed,
and so does a schedule, which goes by the order of the nodes. Where no input takes two connections the
one that supplies it is the same. So the order of the connections shows in three places only: in the
lists of what follows at an output, in the lists of what returns to a loop, and in the connection that
is named where several into one node break the context rule.
-/
namespace NodeScript

/-- One statement, with what follows at each output and what returns to it in another order. -/
structure Statement.Reordered (st other : Statement) : Prop where
  same : { other with flow := st.flow, loopBack := st.loopBack } = st
  flow : List.Forall₂ (fun e d => e.1 = d.1 ∧ e.2.Perm d.2) st.flow other.flow
  loopBack : st.loopBack.Perm other.loopBack

inductive CompileError.Reordered : CompileError → CompileError → Prop where
  | unknownTypes (types nodes : List Text) :
      Reordered (.unknownTypes types nodes) (.unknownTypes types nodes)
  | cycle (nodes : List Text) : Reordered (.cycle nodes) (.cycle nodes)
  | crossing {fromNode fromNode' connection connection' : Text} {context context' : Context}
      (toNode : Text) (toContext : Context) :
      Reordered (.crossing fromNode context toNode toContext connection)
        (.crossing fromNode' context' toNode toContext connection')

inductive ReorderedOutcome :
    Except CompileError (List Statement) → Except CompileError (List Statement) → Prop where
  | error {e other : CompileError} (reordered : e.Reordered other) :
      ReorderedOutcome (.error e) (.error other)
  | ok {statements others : List Statement}
      (reordered : List.Forall₂ Statement.Reordered statements others) :
      ReorderedOutcome (.ok statements) (.ok others)

structure Root.Reordered (r other : Root) : Prop where
  event : r.event = other.event
  outcome : ReorderedOutcome r.outcome other.outcome

section

variable {α β : Type} {l m : List α}

theorem find?_perm {p : α → Bool} (perm : l.Perm m)
    (one : ∀ a ∈ l, ∀ b ∈ l, p a = true → p b = true → a = b) : l.find? p = m.find? p := by
  cases found : m.find? p with
  | none =>
      rw [List.find?_eq_none] at found ⊢
      exact fun a member => found a (perm.subset member)
  | some b =>
      have fits := List.find?_some found
      have member := perm.mem_iff.mpr (List.mem_of_find?_eq_some found)
      obtain ⟨a, first⟩ := Option.isSome_iff_exists.mp (List.find?_isSome.mpr ⟨b, member, fits⟩)
      rw [first, one a (List.mem_of_find?_eq_some first) b member (List.find?_some first) fits]

theorem findSome?_perm {f : α → Option β} {R : β → β → Prop} (perm : l.Perm m)
    (related : ∀ a ∈ l, ∀ b ∈ l, ∀ x y, f a = some x → f b = some y → R x y) :
    Option.Rel R (l.findSome? f) (m.findSome? f) := by
  cases first : l.findSome? f with
  | none =>
      have none : m.findSome? f = none := by
        rw [List.findSome?_eq_none_iff] at first ⊢
        exact fun a member => first a (perm.mem_iff.mpr member)
      rw [none]
      exact .none
  | some x =>
      obtain ⟨a, member, here⟩ := List.exists_of_findSome?_eq_some first
      cases second : m.findSome? f with
      | none =>
          rw [List.findSome?_eq_none_iff.mp second a (perm.subset member)] at here
          cases here
      | some y =>
          obtain ⟨b, member', there⟩ := List.exists_of_findSome?_eq_some second
          exact .some (related a member b (perm.mem_iff.mpr member') x y here there)

variable [DecidableEq α] {edges others : List (α × α)} {rest : List α}

theorem mem_reach_congr {enter : α → Bool} {start starts : List α} (same : ∀ e, e ∈ edges ↔ e ∈ others)
    (from? : ∀ a, a ∈ start ↔ a ∈ starts) (a : α) :
    a ∈ reach edges enter start ↔ a ∈ reach others enter starts := by
  have step : Follows edges enter = Follows others enter := by
    funext a b
    simp only [Follows, same]
  simp only [mem_reach, Leads, step, from?]

theorem schedule_congr (same : ∀ e, e ∈ edges ↔ e ∈ others) (rest : List α) :
    schedule edges rest = schedule others rest := by
  have mirrors : Mirrors id edges others rest := fun a _ b _ => (same (a, b)).symm
  have mapped := schedule_map Function.injective_id mirrors
  simpa only [List.map_id] using mapped.symm

theorem core_congr (same : ∀ e, e ∈ edges ↔ e ∈ others) (rest : List α) :
    core edges rest = core others rest := by
  have mirrors : Mirrors id edges others rest := fun a _ b _ => (same (a, b)).symm
  have mapped := core_map Function.injective_id mirrors
  simpa only [List.map_id] using mapped.symm

end

namespace Wiring

/-- The same nodes with the same connections in another order. -/
structure Shuffled (w v : Wiring) : Prop where
  nodes : w.nodes = v.nodes
  idOrder : w.idOrder = v.idOrder
  active : w.active.Perm v.active
  loopBack : w.loopBack.Perm v.loopBack
  bridged : ∀ id, id ∈ w.bridged ↔ id ∈ v.bridged

/-- No input of a node takes two active connections. -/
def Single (c : Catalog) (w : Wiring) : Prop :=
  ∀ id t, w.templateAt? c id = some t → ∀ port ∈ t.inputs, ∀ k ∈ w.incoming id, ∀ l ∈ w.incoming id,
    k.toPort = port.name → l.toPort = port.name → k = l

section

variable {c : Catalog} {s : Script} {connections : List Connection}

theorem ofScript_shuffled (perm : connections.Perm s.connections) :
    Shuffled (ofScript c { s with connections }) (ofScript c s) where
  nodes := rfl
  idOrder := rfl
  active := (perm.filter _).filter _
  loopBack := (perm.filter _).filter _
  bridged := bridgedTargets_perm ((perm.filter _).filter _)

variable {w v : Wiring} {n : Node} {t : Template}

theorem crossingError?_reordered {k l : Connection} {e other : CompileError}
    (ends : k.toNode = l.toNode) (found : w.crossingError? c k = some e)
    (found' : w.crossingError? c l = some other) : e.Reordered other := by
  unfold crossingError? at found found'
  rw [← ends] at found'
  split at found
  · rename_i source target first second
    split at found
    · cases found
    · cases found
      rw [second] at found'
      split at found'
      · rename_i source' target' first' second'
        cases second'
        split at found'
        · cases found'
        · cases found'
          exact .crossing _ _
      · cases found'
  · cases found

namespace Shuffled

variable (shuffled : Shuffled w v)
include shuffled

theorem node? : w.node? = v.node? := by
  funext id
  rw [Wiring.node?, Wiring.node?, shuffled.nodes]

theorem templateAt? : w.templateAt? c = v.templateAt? c := by
  funext id
  rw [Wiring.templateAt?, Wiring.templateAt?, shuffled.node?]

theorem edges (e : Text × Text) : e ∈ edges w.active ↔ e ∈ edges v.active :=
  (shuffled.active.map Connection.edge).mem_iff

theorem members (event : Text) : w.members c event = v.members c event := by
  have swapped (e : Text × Text) : e ∈ (NodeScript.edges w.active).map Prod.swap ↔
      e ∈ (NodeScript.edges v.active).map Prod.swap := by
    rcases e with ⟨a, b⟩
    rw [mem_swapped, mem_swapped, shuffled.edges]
  have forward (id : Text) : id ∈ w.forward c event ↔ id ∈ v.forward c event := by
    simp only [Wiring.forward, Wiring.isEventAt, shuffled.templateAt?]
    exact mem_reach_congr shuffled.edges (fun _ => Iff.rfl) id
  rw [Wiring.members, Wiring.members, shuffled.idOrder]
  apply List.filter_congr
  intro id _
  rw [Bool.eq_iff_iff, List.contains_iff_mem, List.contains_iff_mem]
  simp only [Wiring.isEventAt, shuffled.templateAt?]
  exact mem_reach_congr swapped forward id

theorem unknownMembers (members : List Text) : w.unknownMembers c members = v.unknownMembers c members := by
  rw [Wiring.unknownMembers, Wiring.unknownMembers, shuffled.templateAt?]

theorem typesOf (ids : List Text) : w.typesOf ids = v.typesOf ids := by
  rw [Wiring.typesOf, Wiring.typesOf, shuffled.node?]

theorem crossingError? : w.crossingError? c = v.crossingError? c := by
  funext k
  have allowed (source target : Template) : crossingAllowed k.fromNode source target w.bridged =
      crossingAllowed k.fromNode source target v.bridged := by
    rw [Bool.eq_iff_iff, crossingAllowed_iff, crossingAllowed_iff, shuffled.bridged]
  simp only [Wiring.crossingError?, shuffled.templateAt?, allowed]

theorem arriving (id : Text) : (w.incoming id ++ w.reentering id).Perm (v.incoming id ++ v.reentering id) :=
  (shuffled.active.filter _).append (shuffled.loopBack.filter _)

/-- The first node of the order into which a connection breaks the rule is the same. -/
theorem firstCrossing? (order : List Text) :
    Option.Rel CompileError.Reordered (w.firstCrossing? c order) (v.firstCrossing? c order) := by
  rw [Wiring.firstCrossing?, Wiring.firstCrossing?, findSome?_flatMap, findSome?_flatMap,
    shuffled.crossingError?]
  apply findSome?_of_related (List.forall₂_same.mpr fun id (_ : id ∈ order) => (rfl : id = id))
  rintro id _ rfl
  apply findSome?_perm (shuffled.arriving id)
  intro k arrives l arrives' e e' found found'
  have ends := (mem_arriving.mp arrives).2.trans (mem_arriving.mp arrives').2.symm
  exact crossingError?_reordered ends found found'

theorem holderOf (order : List Text) : w.holderOf order = v.holderOf order := by
  funext id
  rw [Wiring.holderOf, Wiring.holderOf, shuffled.node?]

theorem argument {id : Text} {port : Port}
    (one : ∀ k ∈ w.incoming id, ∀ l ∈ w.incoming id, k.toPort = port.name → l.toPort = port.name → k = l)
    (order : List Text) (t : Template) (params : Members) :
    w.argument c order t params id port = v.argument c order t params id port := by
  have incoming : (w.incoming id).reverse.Perm (v.incoming id).reverse :=
    (List.reverse_perm _).trans ((shuffled.active.filter _).trans (List.reverse_perm _).symm)
  have wired : (w.incoming id).reverse.find? (·.toPort = port.name) =
      (v.incoming id).reverse.find? (·.toPort = port.name) := by
    apply find?_perm incoming
    intro k arrives l arrives' fits fits'
    exact one k (List.mem_reverse.mp arrives) l (List.mem_reverse.mp arrives') (of_decide_eq_true fits)
      (of_decide_eq_true fits')
  rw [Wiring.argument, Wiring.argument, wired, shuffled.holderOf, shuffled.templateAt?]

theorem flowTargets (order : List Text) (id port : Text) :
    (w.flowTargets order id port).Perm (v.flowTargets order id port) :=
  ((shuffled.active.filter _).filter _).map _

theorem loopSources (order : List Text) (id : Text) :
    (w.loopSources order id).Perm (v.loopSources order id) :=
  ((shuffled.loopBack.filter _).filter _).map _

theorem statement (order : List Text) (index : Nat)
    (one : ∀ port ∈ t.inputs, ∀ k ∈ w.incoming n.id, ∀ l ∈ w.incoming n.id,
      k.toPort = port.name → l.toPort = port.name → k = l) :
    (w.statement c order index n t).Reordered (v.statement c order index n t) where
  same := by
    have args : (t.inputs.filter takesValue).map
          (v.argument c order t (t.parameters.overlay n.parameterValues) n.id) =
        (t.inputs.filter takesValue).map
          (w.argument c order t (t.parameters.overlay n.parameterValues) n.id) := by
      apply List.map_congr_left
      intro port listed
      exact (shuffled.argument (one port (List.mem_of_mem_filter listed)) order t _).symm
    simp only [Wiring.statement, args]
  flow := by
    simp only [Wiring.statement, List.forall₂_map_left_iff, List.forall₂_map_right_iff, List.forall₂_same]
    exact fun port _ => ⟨trivial, shuffled.flowTargets order n.id port⟩
  loopBack := shuffled.loopSources order n.id

theorem statementsFrom (single : w.Single c) (order rest : List Text) (index : Nat) :
    List.Forall₂ Statement.Reordered (w.statementsFrom c order index rest)
      (v.statementsFrom c order index rest) := by
  induction rest generalizing index with
  | nil => exact .nil
  | cons id rest ih =>
      rw [Wiring.statementsFrom, Wiring.statementsFrom, ← shuffled.node?, ← shuffled.templateAt?]
      split
      · rename_i n t found known
        refine .cons (shuffled.statement order index ?_) (ih (index + 1))
        rw [node?_id found]
        exact single id t known
      · exact ih (index + 1)

theorem compileMembers (single : w.Single c) (members : List Text) :
    ReorderedOutcome (w.compileMembers c members) (v.compileMembers c members) := by
  rw [Script.compileMembers_eq, Script.compileMembers_eq, shuffled.unknownMembers, shuffled.typesOf,
    schedule_congr shuffled.edges, core_congr shuffled.edges]
  split
  · exact .error (.unknownTypes _ _)
  · split
    · exact .error (.cycle _)
    · have first := shuffled.firstCrossing? (c := c) (schedule (NodeScript.edges v.active) members).1
      rcases related_cases first with ⟨none, none'⟩ | ⟨e, e', some, some', reordered⟩
      · rw [none, none']
        exact .ok (shuffled.statementsFrom single _ _ 0)
      · rw [some, some']
        exact .error reordered

end Shuffled

end

end Wiring

theorem Script.SingleInputs.wiring {c : Catalog} {s : Script} (single : s.SingleInputs c) :
    (Wiring.ofScript c s).Single c := by
  intro id t known port listed k arrives l arrives' fits fits'
  obtain ⟨active, ends⟩ := List.mem_filter.mp arrives
  obtain ⟨active', ends'⟩ := List.mem_filter.mp arrives'
  obtain ⟨n, found, typed⟩ := Wiring.templateAt?_eq_some.mp known
  obtain ⟨present, named⟩ := lastNode?_mem found
  exact single id t ⟨n, present, named, typed⟩ port listed k (Script.mem_connections_of_active active) l
    (Script.mem_connections_of_active active') (Prod.ext (of_decide_eq_true ends) fits)
    (Prod.ext (of_decide_eq_true ends') fits')

theorem Script.SingleInputs.perm {c : Catalog} {s : Script} {connections : List Connection}
    (single : s.SingleInputs c) (perm : connections.Perm s.connections) :
    { s with connections }.SingleInputs c := by
  intro id t has port listed k present l present' ends ends'
  exact single id t has port listed k (perm.subset present) l (perm.subset present') ends ends'

/-- Where no input takes two connections, the answers to all events stay the same if the connections are
put in another order, up to the order of what follows and what returns and the connection that is named
for a broken rule; the warnings stay the same. -/
theorem compile_reordered (c : Catalog) (s : Script) (connections : List Connection)
    (single : s.SingleInputs c) (perm : connections.Perm s.connections) :
    List.Forall₂ Root.Reordered (compile c { s with connections }).roots (compile c s).roots ∧
      (compile c { s with connections }).warnings = (compile c s).warnings := by
  have shuffled := Wiring.ofScript_shuffled (c := c) perm
  have groups : (({ s with connections }.events c).map fun event =>
        (event, (Wiring.ofScript c { s with connections }).members c event)) =
      (s.events c).map fun event => (event, (Wiring.ofScript c s).members c event) :=
    List.map_congr_left fun event _ => congrArg (Prod.mk event) (shuffled.members event)
  have dead : (compile c { s with connections }).dead = (compile c s).dead := by
    simp only [compile, groups]
  constructor
  · rw [compile, compile, groups]
    apply List.forall₂_map_left_iff.mpr
    apply List.forall₂_map_right_iff.mpr
    apply List.forall₂_same.mpr
    exact fun g _ => ⟨rfl, shuffled.compileMembers (single.perm perm).wiring g.2⟩
  · rw [Program.warnings, Program.warnings, dead]

theorem compile_reordered_wired :
    wired.SingleInputs wiredCatalog ∧ wired.connections.reverse.Perm wired.connections ∧
      List.Forall₂ Root.Reordered
        (compile wiredCatalog { wired with connections := wired.connections.reverse }).roots
        (compile wiredCatalog wired).roots ∧
      (compile wiredCatalog { wired with connections := wired.connections.reverse }).warnings =
        (compile wiredCatalog wired).warnings := by
  have single : wired.SingleInputs wiredCatalog := Script.singleInputs_of_nodup (by decide)
  have perm := List.reverse_perm wired.connections
  exact ⟨single, perm, compile_reordered wiredCatalog wired wired.connections.reverse single perm⟩

end NodeScript
