import NodeScript.Proofs.Program.Verdict
import NodeScript.Proofs.Renaming

namespace NodeScript

structure Connection.Renamed (f : Text → Text) (link : Text → Text → Prop) (k l : Connection) :
    Prop where
  fromNode : l.fromNode = f k.fromNode
  fromPort : l.fromPort = k.fromPort
  toNode : l.toNode = f k.toNode
  toPort : l.toPort = k.toPort
  id : link k.id l.id

/-- One error about the other's nodes and connections. -/
inductive CompileError.Renamed (f : Text → Text) (link : Text → Text → Prop) :
    CompileError → CompileError → Prop where
  | unknownTypes (types nodes : List Text) :
      Renamed f link (.unknownTypes types nodes) (.unknownTypes types (nodes.map f))
  | cycle (nodes : List Text) : Renamed f link (.cycle nodes) (.cycle (nodes.map f))
  | crossing (fromNode : Text) (fromContext : Context) (toNode : Text) (toContext : Context)
      {connection other : Text} (linked : link connection other) :
      Renamed f link (.crossing fromNode fromContext toNode toContext connection)
        (.crossing (f fromNode) fromContext (f toNode) toContext other)

/-- The holder of what another event gives out is named for the event; other holders stay. -/
def Argument.rename (f : Text → Text) (foreign : Text → Option Text) : Argument → Argument
  | literal port value => literal port value
  | ref port holder fromPort marshalled =>
    ref port ((foreign port).elim holder fun event => foreignHolder (f event)) fromPort marshalled

def Statement.rename (f : Text → Text) (foreign : Text → Text → Option Text) (st : Statement) :
    Statement :=
  { st with
    node := f st.node
    args := st.args.map (Argument.rename f (foreign st.node))
    flow := st.flow.map fun entry => (entry.1, entry.2.map f)
    loopBack := st.loopBack.map f }

/-- The event besides the listed nodes whose output the input of a node takes. -/
def Wiring.foreign? (w : Wiring) (listed : List Text) (node port : Text) : Option Text :=
  ((w.incoming node).reverse.find? (·.toPort = port)).bind fun k =>
    if k.fromNode ∈ listed then none else some k.fromNode

/-- The same answer under other ids: the same error, or the same statements. -/
inductive RenamedOutcome (f : Text → Text) (link : Text → Text → Prop)
    (foreign : List Text → Text → Text → Option Text) :
    Except CompileError (List Statement) → Except CompileError (List Statement) → Prop where
  | error {e other : CompileError} (renamed : e.Renamed f link other) :
      RenamedOutcome f link foreign (.error e) (.error other)
  | ok (statements : List Statement) :
      RenamedOutcome f link foreign (.ok statements)
        (.ok (statements.map (Statement.rename f (foreign (statements.map Statement.node)))))

theorem RenamedOutcome.of_nodes {f : Text → Text} {link : Text → Text → Prop}
    {foreign : List Text → Text → Text → Option Text} {statements : List Statement}
    {nodes : List Text} (listed : statements.map Statement.node = nodes) :
    RenamedOutcome f link foreign (.ok statements)
      (.ok (statements.map (Statement.rename f (foreign nodes)))) := by
  subst listed
  exact .ok statements

theorem RenamedOutcome.unique {f : Text → Text}
    {foreign : List Text → Text → Text → Option Text}
    {outcome first second : Except CompileError (List Statement)}
    (one : RenamedOutcome f Eq foreign outcome first)
    (other : RenamedOutcome f Eq foreign outcome second) : first = second := by
  cases one with
  | error renamed =>
      cases other with
      | error renamed' =>
          cases renamed with
          | unknownTypes | cycle => cases renamed'; rfl
          | crossing _ _ _ _ linked =>
              cases renamed' with
              | crossing _ _ _ _ linked' => rw [← linked, ← linked']
  | ok => cases other; rfl

namespace Wiring

/-- What compiling looks at in a node, its id apart. -/
def content (n : Node) : Text × Members := (n.type, n.parameterValues)

def into (members : List Text) (l : List Connection) : List Connection :=
  l.filter fun k => decide (k.toNode ∈ members)

section

variable (c : Catalog) (f : Text → Text) (link : Text → Text → Prop) (w v : Wiring)

/-- Corresponding connections that are checked alike. -/
structure Wire (k l : Connection) : Prop where
  renamed : k.Renamed f link l
  source : v.templateAt? c l.fromNode = w.templateAt? c k.fromNode
  bridged : v.bridged.contains l.fromNode = w.bridged.contains k.fromNode

/-- The members have the same contents and the same connections come in, in the same order. -/
structure Alike (members : List Text) : Prop where
  nodes : ∀ id ∈ members, (v.node? (f id)).map content = (w.node? id).map content
  arriving : List.Forall₂ (Wire c f link w v) (into members w.active)
    (into (members.map f) v.active)
  returning : List.Forall₂ (Wire c f link w v) (into members w.loopBack)
    (into (members.map f) v.loopBack)

end

section

variable {c : Catalog} {f : Text → Text} {link : Text → Text → Prop} {w v : Wiring}
  {members order : List Text} {id : Text} {k l : Connection}

theorem type_of_content (same : (v.node? (f id)).map content = (w.node? id).map content) :
    (v.node? (f id)).map Node.type = (w.node? id).map Node.type := by
  simpa [content, Option.map_map, Function.comp_def] using congrArg (Option.map Prod.fst) same

theorem templateAt?_of_content (same : (v.node? (f id)).map content = (w.node? id).map content) :
    v.templateAt? c (f id) = w.templateAt? c id := by
  have typed (u : Wiring) (id : Text) :
      u.templateAt? c id = ((u.node? id).map Node.type).bind c.find? := by
    cases found : u.node? id <;> simp [templateAt?, found, Catalog.nodeTemplate?]
  rw [typed, typed, type_of_content same]

theorem unknownMembers_alike (alike : Alike c f link w v members) :
    v.unknownMembers c (members.map f) = (w.unknownMembers c members).map f := by
  rw [unknownMembers, unknownMembers, List.filter_map]
  congr 1
  apply List.filter_congr
  intro id member
  rw [Function.comp_apply, templateAt?_of_content (alike.nodes id member)]

theorem typesOf_alike (alike : Alike c f link w v members) {ids : List Text} (sub : ids ⊆ members) :
    v.typesOf (ids.map f) = w.typesOf ids := by
  rw [typesOf, typesOf, List.filterMap_map]
  congr 1
  apply List.filterMap_congr
  intro id listed
  exact type_of_content (alike.nodes id (sub listed))

theorem mem_into {l : List Connection} :
    k ∈ into members l ↔ k ∈ l ∧ k.toNode ∈ members := by
  simp [into]

theorem Alike.refl (w : Wiring) (members : List Text) :
    Alike c (fun id => id) Eq w w members := by
  have wire (k : Connection) : Wire c (fun id => id) Eq w w k k :=
    ⟨⟨rfl, rfl, rfl, rfl, rfl⟩, rfl, rfl⟩
  refine ⟨fun _ _ => rfl, ?_, ?_⟩
  · rw [List.map_id', List.forall₂_same]
    exact fun k _ => wire k
  · rw [List.map_id', List.forall₂_same]
    exact fun k _ => wire k

theorem Alike.mirrors (alike : Alike c f link w v members) (injective : Function.Injective f) :
    Mirrors f (edges w.active) (edges v.active) members := by
  have arriving : (into (members.map f) v.active).map Connection.edge =
      (into members w.active).map fun k => (f k.fromNode, f k.toNode) :=
    map_of_related alike.arriving fun k l wire =>
      congrArg₂ Prod.mk wire.renamed.fromNode wire.renamed.toNode
  have inside (u : Wiring) (ids : List Text) (a b : Text) (member : b ∈ ids) :
      (a, b) ∈ edges u.active ↔ (a, b) ∈ (into ids u.active).map Connection.edge := by
    simp only [mem_edges, List.mem_map, mem_into, Connection.edge, Prod.mk.injEq]
    constructor
    · intro edge
      rcases edge with ⟨k, present, from?, to?⟩
      exact ⟨k, ⟨present, to? ▸ member⟩, from?, to?⟩
    · intro edge
      rcases edge with ⟨k, ⟨present, _⟩, from?, to?⟩
      exact ⟨k, present, from?, to?⟩
  intro a _ b member
  rw [inside v (members.map f) (f a) (f b) (List.mem_map_of_mem member), arriving,
    inside w members a b member]
  simp only [List.mem_map, Connection.edge, Prod.mk.injEq, injective.eq_iff]

theorem into_one {l m : List Connection} (injective : Function.Injective f) (member : id ∈ members)
    (related : List.Forall₂ (Wire c f link w v) (into members l) (into (members.map f) m)) :
    List.Forall₂ (fun k k' => Wire c f link w v k k' ∧ k.toNode = id)
      (l.filter (·.toNode = id)) (m.filter (·.toNode = f id)) := by
  have one (ids : List Text) (l : List Connection) (id : Text) (member : id ∈ ids) :
      l.filter (fun k => decide (k.toNode = id)) =
        (into ids l).filter fun k => decide (k.toNode = id) := by
    rw [into, List.filter_filter]
    apply List.filter_congr
    intro k _
    by_cases same : k.toNode = id <;> simp [same, member]
  have filtered := filter_of_related (p := fun k => decide (k.toNode = id))
    (q := fun k => decide (k.toNode = f id)) related fun k k' wire => by
      simp only [wire.renamed.toNode, injective.eq_iff]
  rw [one members l id member, one (members.map f) m (f id) (List.mem_map_of_mem member)]
  exact filtered.imp fun k k' both => ⟨both.1, of_decide_eq_true both.2⟩

theorem crossingError?_alike (alike : Alike c f link w v members) (wire : Wire c f link w v k l)
    (member : k.toNode ∈ members) :
    Option.Rel (CompileError.Renamed f link) (w.crossingError? c k) (v.crossingError? c l) := by
  have target : v.templateAt? c l.toNode = w.templateAt? c k.toNode := by
    rw [wire.renamed.toNode]
    exact templateAt?_of_content (alike.nodes _ member)
  rw [crossingError?, crossingError?, wire.source, target]
  split
  · rename_i source target _ _
    have allowed : crossingAllowed l.fromNode source target v.bridged =
        crossingAllowed k.fromNode source target w.bridged := by
      rw [crossingAllowed, crossingAllowed, wire.bridged]
    rw [allowed]
    split
    · exact .none
    · rw [wire.renamed.fromNode, wire.renamed.toNode]
      exact .some (.crossing _ _ _ _ wire.renamed.id)
  · exact .none

theorem firstCrossing?_alike (alike : Alike c f link w v members) (injective : Function.Injective f)
    (sub : order ⊆ members) :
    Option.Rel (CompileError.Renamed f link) (w.firstCrossing? c order)
      (v.firstCrossing? c (order.map f)) := by
  rw [firstCrossing?, firstCrossing?, findSome?_flatMap, findSome?_flatMap]
  have matched : List.Forall₂ (fun a b => a ∈ order ∧ b = f a) order (order.map f) :=
    List.forall₂_map_right_iff.mpr (List.forall₂_same.mpr fun a placed => ⟨placed, rfl⟩)
  apply findSome?_of_related matched
  intro id _ pair
  rcases pair with ⟨placed, rfl⟩
  have member := sub placed
  have arriving : List.Forall₂ (fun k l => Wire c f link w v k l ∧ k.toNode = id)
      (w.incoming id ++ w.reentering id) (v.incoming (f id) ++ v.reentering (f id)) :=
    List.rel_append (into_one injective member alike.arriving)
      (into_one injective member alike.returning)
  apply findSome?_of_related arriving
  intro k l pair
  rcases pair with ⟨wire, rfl⟩
  exact crossingError?_alike alike wire member

theorem holderOf_alike (alike : Alike c f link w v members) (injective : Function.Injective f)
    (sub : order ⊆ members) (id : Text) :
    v.holderOf (order.map f) (f id) =
      if id ∈ order then w.holderOf order id else foreignHolder (f id) := by
  rw [holderOf, holderOf, idxOf?_map injective]
  split
  · rename_i index found
    have placed : id ∈ order := List.isSome_idxOf?.mp (by rw [found]; rfl)
    have typed (u : Wiring) (id : Text) :
        (u.node? id).elim ("" : Text) Node.type = ((u.node? id).map Node.type).getD ("" : Text) := by
      cases u.node? id <;> rfl
    rw [if_pos placed, typed, typed, type_of_content (alike.nodes id (sub placed))]
  · rename_i none
    rw [if_neg (List.idxOf?_eq_none_iff.mp none)]

theorem argument_alike (alike : Alike c f link w v members) (injective : Function.Injective f)
    (sub : order ⊆ members) (member : id ∈ members) (t : Template) (params : Members) (port : Port) :
    v.argument c (order.map f) t params (f id) port =
      (w.argument c order t params id port).rename f (w.foreign? order id) := by
  have wired : Option.Rel (fun k l => Wire c f link w v k l ∧ k.toNode = id)
      ((w.incoming id).reverse.find? (·.toPort = port.name))
      ((v.incoming (f id)).reverse.find? (·.toPort = port.name)) := by
    apply find?_of_related (List.rel_reverse (into_one injective member alike.arriving))
    intro k l both
    simp only [both.1.renamed.toPort]
  unfold argument
  rcases related_cases wired with ⟨none, none'⟩ | ⟨k, l, found, found', wire, _⟩
  · rw [none, none']
    rfl
  · have foreign : w.foreign? order id port.name =
        if k.fromNode ∈ order then none else some k.fromNode := by
      rw [foreign?, found, Option.bind_some]
    simp only [found, found', Argument.rename, foreign, wire.source, wire.renamed.fromPort]
    rw [wire.renamed.fromNode, holderOf_alike alike injective sub]
    by_cases placed : k.fromNode ∈ order <;> simp [placed, holderOf, List.idxOf?_eq_none_iff.mpr]

theorem flowTargets_alike (alike : Alike c f link w v members) (injective : Function.Injective f)
    (sub : order ⊆ members) (id port : Text) :
    v.flowTargets (order.map f) (f id) port = (w.flowTargets order id port).map f := by
  have inside (u : Wiring) (ids order : List Text) (sub : order ⊆ ids) (id : Text) :
      (u.outgoing id).filter (fun k => k.fromPort = port && order.contains k.toNode) =
        (into ids u.active).filter fun k =>
          decide (k.fromNode = id) && (k.fromPort = port && order.contains k.toNode) := by
    rw [outgoing, into, List.filter_filter, List.filter_filter]
    apply List.filter_congr
    intro k _
    by_cases placed : k.toNode ∈ order
    · simp [placed, sub placed, Bool.and_comm]
    · simp [placed]
  rw [flowTargets, flowTargets, inside v _ _ (List.map_subset f sub), inside w _ _ sub, List.map_map]
  apply map_of_related (filter_of_related alike.arriving _)
  · intro k l both
    exact both.1.renamed.toNode
  · intro k l wire
    simp [wire.renamed.fromNode, wire.renamed.fromPort, wire.renamed.toNode, injective.eq_iff]

theorem loopSources_alike (alike : Alike c f link w v members) (injective : Function.Injective f)
    (member : id ∈ members) :
    v.loopSources (order.map f) (f id) = (w.loopSources order id).map f := by
  rw [loopSources, loopSources, List.map_map]
  apply map_of_related (filter_of_related (into_one injective member alike.returning) _)
  · intro k l both
    exact both.1.1.renamed.fromNode
  · intro k l both
    simp [both.1.renamed.fromNode, injective.eq_iff]

theorem statement_alike (alike : Alike c f link w v members) (injective : Function.Injective f)
    (sub : order ⊆ members) {n m : Node} (member : n.id ∈ members) (named : m.id = f n.id)
    (same : content m = content n) (index : Nat) (t : Template) :
    v.statement c (order.map f) index m t =
      (w.statement c order index n t).rename f (w.foreign? order) := by
  rcases Prod.mk.inj same with ⟨typed, valued⟩
  have args : (t.inputs.filter takesValue).map
        (v.argument c (order.map f) t (t.parameters.overlay n.parameterValues) (f n.id)) =
      ((t.inputs.filter takesValue).map
        (w.argument c order t (t.parameters.overlay n.parameterValues) n.id)).map
          (Argument.rename f (w.foreign? order n.id)) := by
    rw [List.map_map]
    exact List.map_congr_left fun port _ => argument_alike alike injective sub member t _ port
  simp only [statement, Statement.rename, named, typed, valued, args, List.map_map,
    Function.comp_def, flowTargets_alike alike injective sub, loopSources_alike alike injective member]

theorem statementsFrom_alike (alike : Alike c f link w v members) (injective : Function.Injective f)
    (sub : order ⊆ members) {rest : List Text} (tail : rest ⊆ members) (index : Nat) :
    v.statementsFrom c (order.map f) index (rest.map f) =
      (w.statementsFrom c order index rest).map (Statement.rename f (w.foreign? order)) := by
  induction rest generalizing index with
  | nil => rfl
  | cons id rest ih =>
      have member := tail List.mem_cons_self
      have others := ih (fun a listed => tail (List.mem_cons_of_mem id listed)) (index + 1)
      have same := alike.nodes id member
      rw [List.map_cons, statementsFrom, statementsFrom, templateAt?_of_content same, others]
      cases found : w.node? id with
      | none =>
          rw [found, Option.map_none, Option.map_eq_none_iff] at same
          rw [same]
      | some n =>
          rw [found, Option.map_some, Option.map_eq_some_iff] at same
          rcases same with ⟨m, found', same⟩
          have named := node?_id found
          subst named
          rw [found']
          cases w.templateAt? c n.id with
          | none => rfl
          | some t =>
              exact congrArg (· :: _)
                (statement_alike alike injective sub member (node?_id found') same index t)

/-- Members that are wired alike compile to the same answer. -/
theorem compileMembers_alike (alike : Alike c f link w v members) (injective : Function.Injective f) :
    RenamedOutcome f link w.foreign? (w.compileMembers c members)
      (v.compileMembers c (members.map f)) := by
  have scheduled := schedule_map injective (alike.mirrors injective)
  rw [Script.compileMembers_eq, Script.compileMembers_eq, unknownMembers_alike alike, scheduled]
  by_cases known : w.unknownMembers c members = []
  · have all := schedule_perm (edges w.active) members
    by_cases acyclic : (schedule (edges w.active) members).2 = []
    -- Everything is ordered: the first crossing that is refused decides, if there is one.
    · rw [acyclic, List.append_nil] at all
      have checked := firstCrossing?_alike alike injective all.subset
      simp only [known, acyclic, List.map_nil, ne_eq, not_true_eq_false, if_false]
      rcases related_cases checked with ⟨none, none'⟩ | ⟨e, other, found, found', renamed⟩
      · rw [none, none']
        have typed (id : Text) (placed : id ∈ (schedule (edges w.active) members).1) :
            (w.templateAt? c id).isSome = true :=
          unknownMembers_eq_nil.mp known id (all.subset placed)
        rw [statementsFrom_alike alike injective all.subset all.subset]
        exact .of_nodes (Wiring.statementsFrom_nodes 0 typed)
      · rw [found, found']
        exact .error renamed
    · have left : (schedule (edges w.active) members).2 ⊆ members :=
        fun a stays => all.subset (List.mem_append_right _ stays)
      simp only [known, acyclic, List.map_nil, List.map_eq_nil_iff, ne_eq, not_true_eq_false,
        not_false_eq_true, if_false, if_true, core_map injective ((alike.mirrors injective).subset left)]
      exact .error (.cycle _)
  · have sub : w.unknownMembers c members ⊆ members := List.filter_sublist.subset
    simp only [known, List.map_eq_nil_iff, ne_eq, not_false_eq_true, if_true, typesOf_alike alike sub]
    exact .error (.unknownTypes _ _)

end

end Wiring

end NodeScript
