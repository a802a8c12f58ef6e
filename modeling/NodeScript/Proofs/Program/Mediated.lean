import NodeScript.Proofs.Program.Audited
import NodeScript.Proofs.Program.Carried
import NodeScript.Proofs.Script.Deletions
import NodeScript.Proofs.Script.Link

/-!
Crossings in programs. What is bridged is computed once for a whole script, yet the bridge behind a
crossing is a statement of the very program: a target node that is bridged is fed by target nodes up
to the bridge, and what feeds a member is a member too, unless it is an event, which is no bridge and
has no inputs. The order of the members makes the places grow along the way.
-/
namespace NodeScript

/-- No event is a bridge. -/
def Catalog.PlainEvents (c : Catalog) : Prop :=
  ∀ t ∈ c.templates, t.isEvent = true → t.bridge = false

namespace Script

section

variable (c : Catalog) (s : Script) (statements : List Statement)

/-- A connection leads from a statement to a later one of the target context. -/
structure Passes (a b : Statement) : Prop where
  listed : b ∈ statements
  context : b.context = .target
  later : a.index < b.index
  joined : ∃ k ∈ s.connections, k.fromNode = a.node ∧ k.toNode = b.node

/-- One of the two is a bridge, or the first is in the target context and a bridge of the program leads
to it through statements of that context. -/
def Mediates (source target : Statement) : Prop :=
  source.kind = .bridge ∨ target.kind = .bridge ∨
    source.context = .target ∧
      ∃ b ∈ statements, b.kind = .bridge ∧ Relation.TransGen (s.Passes statements) b source

/-- Whatever links two contexts is mediated: references, flow, and returns to loops. -/
structure Mediated : Prop where
  refs : ∀ st ∈ statements, ∀ port holder fromPort marshalled,
    .ref port holder fromPort marshalled ∈ st.args →
    ∃ k ∈ s.connections, k.input = (st.node, port) ∧ k.fromPort = fromPort ∧
      ((∃ source ∈ statements, source.node = k.fromNode ∧ holder = source.holder ∧
          marshalled = decide (source.context ≠ st.context) ∧
          (source.context ≠ st.context → s.Mediates statements source st)) ∨
        ∃ t, HasTemplate c s.nodes k.fromNode t ∧ t.isEvent = true ∧
          k.fromNode ∉ statements.map Statement.node ∧ holder = foreignHolder k.fromNode ∧
          marshalled = decide (t.context ≠ st.context) ∧
          (t.context ≠ st.context → st.kind = .bridge))
  flows : ∀ st ∈ statements, ∀ entry ∈ st.flow, ∀ id ∈ entry.2, ∃ next ∈ statements,
    next.node = id ∧ (st.context ≠ next.context → s.Mediates statements st next)
  backs : ∀ st ∈ statements, ∀ id ∈ st.loopBack, ∃ source ∈ statements,
    source.node = id ∧ (source.context ≠ st.context → s.Mediates statements source st)

end

/-- The statements are those of an event of an audited script. -/
structure Compiles (c : Catalog) (s : Script) (event : Text) (statements : List Statement) : Prop where
  plain : c.PlainEvents
  clean : s.Clean c
  topological : s.Topological c event (s.order c event)
  legal : ∀ k source target, ¬s.Crosses c event k source target
  compiled : statements =
    (Wiring.ofScript c s).statementsFrom c (s.order c event) 0 (s.order c event)

/-- What a statement has from its node. -/
structure Stands (c : Catalog) (s : Script) (event : Text) (st : Statement) (t : Template) : Prop where
  has : HasTemplate c s.nodes st.node t
  member : s.Member c event st.node
  context : st.context = t.context
  kind : st.kind = Wiring.kindOf t
  index : st.index = (s.order c event).idxOf st.node

section

variable {c : Catalog} {s : Script} {event id : Text} {statements : List Statement}
  {st next : Statement} {k : Connection} {t : Template}

theorem Compiles.origin (compiles : s.Compiles c event statements) (listed : st ∈ statements) :
    ∃ i, ∃ n ∈ s.nodes, ∃ t, (s.order c event)[i]? = some n.id ∧ c.find? n.type = some t ∧
      st = (Wiring.ofScript c s).statement c (s.order c event) i n t :=
  mem_compiled (compiles.compiled ▸ listed)

theorem Compiles.stands (compiles : s.Compiles c event statements) (listed : st ∈ statements) :
    ∃ t, s.Stands c event st t := by
  rcases compiles.origin listed with ⟨i, n, present, t, placed, typed, rfl⟩
  refine ⟨t, ⟨n, present, rfl, typed⟩, ?_, rfl, rfl, ?_⟩
  · exact (compiles.topological.members _).mp (List.mem_of_getElem? placed)
  · exact (idxOf_of_getElem? compiles.topological.distinct placed).symm

theorem Compiles.stated (compiles : s.Compiles c event statements) (member : s.Member c event id)
    (has : HasTemplate c s.nodes id t) : ∃ st ∈ statements, st.node = id ∧
      (Wiring.ofScript c s).holderOf (s.order c event) id = st.holder := by
  rcases has with ⟨n, present, rfl, typed⟩
  have found : (Wiring.ofScript c s).node? n.id = some n := lastNode?_of_mem compiles.clean.nodes present
  rcases List.mem_iff_getElem?.mp ((compiles.topological.members _).mpr member) with ⟨i, placed⟩
  refine ⟨(Wiring.ofScript c s).statement c (s.order c event) i n t, ?_, rfl, ?_⟩
  · rw [compiles.compiled]
    exact Wiring.mem_statementsFrom.mpr ⟨i, n, t, placed, found, typed, by rw [Nat.zero_add]⟩
  · simp only [Wiring.holderOf, idxOf?_of_getElem? compiles.topological.distinct placed, found,
      Option.elim_some, Wiring.statement]

theorem Stands.bridge (stands : s.Stands c event st t) (plain : c.PlainEvents)
    (bridge : t.bridge = true) : st.kind = .bridge := by
  have noEvent : t.isEvent = false := by
    apply Bool.eq_false_iff.mpr
    intro event
    rw [plain t stands.has.listed event] at bridge
    cases bridge
  simp [stands.kind, Wiring.kindOf, noEvent, bridge]

theorem Clean.not_event (clean : s.Clean c) {a b : Text} (step : s.Step c a b) : ¬s.EventAt c b := by
  intro entered
  rcases entered with ⟨t, has, event⟩
  rcases step with ⟨k, active, _, rfl⟩
  rcases clean.wired k active.1.1 with ⟨_, target, _, to?, _, into, _⟩
  cases has.unique clean.nodes to?
  rcases to? with ⟨n, _, _, known⟩
  rcases Option.isSome_iff_exists.mp into with ⟨port, into⟩
  rw [Catalog.not_event_of_input known into] at event
  cases event

theorem Compiles.passes (compiles : s.Compiles c event statements) (here : st ∈ statements)
    (there : next ∈ statements) (step : s.Step c st.node next.node)
    (may : carries c s.nodes next.node = true) : s.Passes statements st next := by
  rcases compiles.stands here with ⟨_, stands⟩
  rcases compiles.stands there with ⟨t, stands'⟩
  refine ⟨there, ?_, ?_, ?_⟩
  · rcases (carries_iff_template compiles.clean.nodes).mp may with ⟨u, has, context, _⟩
    cases stands'.has.unique compiles.clean.nodes has
    rw [stands'.context, context]
  · rw [stands.index, stands'.index]
    exact compiles.topological.before _ _ step stands.member stands'.member
  · rcases step with ⟨k, active, from?, to?⟩
    exact ⟨k, active.1.1, from?, to?⟩

/-- The bridge behind a member, and all that lies between, are members. -/
theorem Compiles.chain (compiles : s.Compiles c event statements) {bridge : Text}
    (bridges : bridge ∈ bridges c s.nodes)
    (path : Relation.TransGen (fun a b => s.Step c a b ∧ carries c s.nodes b = true) bridge id)
    (listed : st ∈ statements) (named : st.node = id) :
    ∃ b ∈ statements, b.kind = .bridge ∧ Relation.TransGen (s.Passes statements) b st := by
  -- Back along the path: a node that feeds a member is a member, and has its statement.
  induction path generalizing st with
  | single step =>
      subst named
      rcases compiles.stands listed with ⟨_, stands⟩
      rcases mem_bridges_iff_template.mp bridges with ⟨t, has, isBridge⟩
      have noEvent : ¬s.EventAt c bridge := by
        rintro ⟨u, has', event⟩
        cases has.unique compiles.clean.nodes has'
        rw [compiles.plain t has.listed event] at isBridge
        cases isBridge
      have member := (stands.member.source step.1).resolve_right noEvent
      rcases compiles.stated member has with ⟨b, listed', rfl, _⟩
      rcases compiles.stands listed' with ⟨u, stands'⟩
      cases has.unique compiles.clean.nodes stands'.has
      exact ⟨b, listed', stands'.bridge compiles.plain isBridge,
        .single (compiles.passes listed' listed step.1 step.2)⟩
  | @tail mid last before step ih =>
      subst named
      rcases compiles.stands listed with ⟨_, stands⟩
      rcases Relation.TransGen.tail'_iff.mp before with ⟨_, _, entered, may⟩
      have member := (stands.member.source step.1).resolve_right (compiles.clean.not_event entered)
      rcases (carries_iff_template compiles.clean.nodes).mp may with ⟨t, has, _⟩
      rcases compiles.stated member has with ⟨between, listed', rfl, _⟩
      rcases ih listed' rfl with ⟨b, present, isBridge, path⟩
      exact ⟨b, present, isBridge, path.tail (compiles.passes listed' listed step.1 step.2)⟩

/-- What links two contexts was allowed, and by a bridge of the program. -/
theorem Compiles.mediates (compiles : s.Compiles c event statements) (attached : s.Attached k)
    (here : st ∈ statements) (there : next ∈ statements) (from? : k.fromNode = st.node)
    (to? : k.toNode = next.node) (apart : st.context ≠ next.context) :
    s.Mediates statements st next := by
  rcases compiles.stands here with ⟨source, stands⟩
  rcases compiles.stands there with ⟨target, stands'⟩
  have allowed : crossingAllowed k.fromNode source target (s.activeBridged c) = true := by
    by_contra refused
    exact compiles.legal k source target ⟨attached, to? ▸ stands'.member, from? ▸ stands.has,
      to? ▸ stands'.has, Bool.eq_false_iff.mpr refused⟩
  rcases crossingAllowed_iff.mp allowed with same | bridge | bridge | ⟨context, fed⟩
  · rw [stands.context, stands'.context] at apart
    exact absurd same apart
  · exact Or.inl (stands.bridge compiles.plain bridge)
  · exact Or.inr (Or.inl (stands'.bridge compiles.plain bridge))
  · rcases (mem_activeBridged compiles.clean.nodes).mp fed with ⟨b, bridges, path⟩
    exact Or.inr (Or.inr ⟨stands.context.trans context, compiles.chain bridges path here from?.symm⟩)

theorem Compiles.outside (compiles : s.Compiles c event statements) (attached : s.Attached k)
    (has : HasTemplate c s.nodes k.fromNode t) (isEvent : t.isEvent = true) (there : st ∈ statements)
    (to? : k.toNode = st.node) (apart : t.context ≠ st.context) : st.kind = .bridge := by
  rcases compiles.stands there with ⟨target, stands⟩
  have allowed : crossingAllowed k.fromNode t target (s.activeBridged c) = true := by
    by_contra refused
    exact compiles.legal k t target ⟨attached, to? ▸ stands.member, has, to? ▸ stands.has,
      Bool.eq_false_iff.mpr refused⟩
  rcases crossingAllowed_iff.mp allowed with same | bridge | bridge | ⟨_, fed⟩
  · exact absurd (same.trans stands.context.symm) apart
  · rw [compiles.plain t has.listed isEvent] at bridge
    cases bridge
  · exact stands.bridge compiles.plain bridge
  · rcases (mem_activeBridged compiles.clean.nodes).mp fed with ⟨b, _, path⟩
    rcases Relation.TransGen.tail'_iff.mp path with ⟨_, _, step, _⟩
    exact absurd ⟨t, has, isEvent⟩ (compiles.clean.not_event step)

theorem argument_eq_ref {w : Wiring} {order : List Text} {params : Members} {input : Port}
    {port holder fromPort : Text} {marshalled : Bool}
    (same : w.argument c order t params id input = .ref port holder fromPort marshalled) :
    ∃ k ∈ w.incoming id, k.toPort = port ∧ holder = w.holderOf order k.fromNode ∧
      k.fromPort = fromPort ∧
      marshalled = (w.templateAt? c k.fromNode).any fun source => decide (source.context ≠ t.context) := by
  unfold Wiring.argument at same
  split at same
  · cases same
  · rename_i k found
    cases same
    have ends : k.toPort = input.name := by simpa using List.find?_some found
    exact ⟨k, List.mem_reverse.mp (List.mem_of_find?_eq_some found), ends, rfl, rfl, rfl⟩

theorem Compiles.source (compiles : s.Compiles c event statements) (active : s.Active c k)
    (there : st ∈ statements) (to? : k.toNode = st.node) :
    ∃ source, HasTemplate c s.nodes k.fromNode source ∧
      ((∃ handing ∈ statements, handing.node = k.fromNode ∧ handing.context = source.context ∧
          (Wiring.ofScript c s).holderOf (s.order c event) k.fromNode = handing.holder ∧
          (handing.context ≠ st.context → s.Mediates statements handing st)) ∨
        source.isEvent = true ∧ k.fromNode ∉ statements.map Statement.node ∧
          (Wiring.ofScript c s).holderOf (s.order c event) k.fromNode = foreignHolder k.fromNode ∧
          (source.context ≠ st.context → st.kind = .bridge)) := by
  rcases compiles.stands there with ⟨target, stands⟩
  rcases compiles.clean.wired k active.1.1 with ⟨source, _, from?, _⟩
  refine ⟨source, from?, ?_⟩
  by_cases member : s.Member c event k.fromNode
  · rcases compiles.stated member from? with ⟨handing, listed, named, held⟩
    rcases compiles.stands listed with ⟨u, stands'⟩
    cases from?.unique compiles.clean.nodes (named ▸ stands'.has)
    exact Or.inl ⟨handing, listed, named, stands'.context, held,
      compiles.mediates active.1 listed there named.symm to?⟩
  · have arrives : s.Member c event k.toNode := to? ▸ stands.member
    rcases (arrives.source ⟨k, active, rfl, rfl⟩).resolve_left member with ⟨u, has, isEvent⟩
    cases from?.unique compiles.clean.nodes has
    have unplaced : (s.order c event).idxOf? k.fromNode = none :=
      List.idxOf?_eq_none_iff.mpr fun placed => member ((compiles.topological.members _).mp placed)
    refine Or.inr ⟨isEvent, ?_, by rw [Wiring.holderOf, unplaced], ?_⟩
    · intro listed
      rcases List.mem_map.mp listed with ⟨other, listed, named⟩
      rcases compiles.stands listed with ⟨_, stands'⟩
      exact member (named ▸ stands'.member)
    · exact compiles.outside active.1 from? isEvent there to?

theorem Compiles.refs (compiles : s.Compiles c event statements) (listed : st ∈ statements)
    {port holder fromPort : Text} {marshalled : Bool}
    (refers : .ref port holder fromPort marshalled ∈ st.args) :
    ∃ k ∈ s.connections, k.input = (st.node, port) ∧ k.fromPort = fromPort ∧
      ((∃ source ∈ statements, source.node = k.fromNode ∧ holder = source.holder ∧
          marshalled = decide (source.context ≠ st.context) ∧
          (source.context ≠ st.context → s.Mediates statements source st)) ∨
        ∃ t, HasTemplate c s.nodes k.fromNode t ∧ t.isEvent = true ∧
          k.fromNode ∉ statements.map Statement.node ∧ holder = foreignHolder k.fromNode ∧
          marshalled = decide (t.context ≠ st.context) ∧
          (t.context ≠ st.context → st.kind = .bridge)) := by
  rcases compiles.origin listed with ⟨i, n, present, t, placed, typed, rfl⟩
  rcases List.mem_map.mp refers with ⟨input, _, same⟩
  rcases argument_eq_ref same with ⟨k, arrives, port?, rfl, fromPort?, rfl⟩
  rcases List.mem_filter.mp arrives with ⟨wired, ends⟩
  have active := (Wiring.mem_active compiles.clean.nodes).mp wired
  have to? : k.toNode = n.id := of_decide_eq_true ends
  rcases compiles.source active listed to? with ⟨source, from?, inside | outside⟩
  · rcases inside with ⟨handing, listed', named, context, held, mediates⟩
    refine ⟨k, active.1.1, Prod.ext to? port?, fromPort?, Or.inl ⟨handing, listed', named, held, ?_, mediates⟩⟩
    rw [(Wiring.templateAt?_iff compiles.clean.nodes).mpr from?, context]
    rfl
  · rcases outside with ⟨isEvent, unlisted, held, bridge⟩
    refine ⟨k, active.1.1, Prod.ext to? port?, fromPort?,
      Or.inr ⟨source, from?, isEvent, unlisted, held, ?_, bridge⟩⟩
    rw [(Wiring.templateAt?_iff compiles.clean.nodes).mpr from?]
    rfl

theorem Compiles.flows (compiles : s.Compiles c event statements) (listed : st ∈ statements)
    {entry : Text × List Text} (handed : entry ∈ st.flow) (target : id ∈ entry.2) :
    ∃ next ∈ statements, next.node = id ∧
      (st.context ≠ next.context → s.Mediates statements st next) := by
  rcases compiles.origin listed with ⟨i, n, present, t, placed, typed, rfl⟩
  rcases List.mem_map.mp handed with ⟨port, _, rfl⟩
  rcases List.mem_map.mp target with ⟨k, chosen, rfl⟩
  rcases List.mem_filter.mp chosen with ⟨leaves, inside⟩
  rcases List.mem_filter.mp leaves with ⟨wired, from?⟩
  have active := (Wiring.mem_active compiles.clean.nodes).mp wired
  have placed' : k.toNode ∈ s.order c event := by
    rw [Bool.and_eq_true, List.contains_iff_mem] at inside
    exact inside.2
  rcases compiles.clean.wired k active.1.1 with ⟨_, _, _, to?, _⟩
  rcases compiles.stated ((compiles.topological.members _).mp placed') to? with
    ⟨next, listed', named, _⟩
  exact ⟨next, listed', named,
    compiles.mediates active.1 listed listed' (of_decide_eq_true from?) named.symm⟩

theorem Compiles.backs (compiles : s.Compiles c event statements) (listed : st ∈ statements)
    (returns : id ∈ st.loopBack) : ∃ source ∈ statements, source.node = id ∧
      (source.context ≠ st.context → s.Mediates statements source st) := by
  rcases compiles.origin listed with ⟨i, n, present, t, placed, typed, rfl⟩
  rcases List.mem_map.mp returns with ⟨k, chosen, rfl⟩
  rcases List.mem_filter.mp chosen with ⟨arrives, inside⟩
  rcases List.mem_filter.mp arrives with ⟨back, to?⟩
  have attached := ((Wiring.mem_loopBack compiles.clean.nodes).mp back).1
  rcases compiles.clean.wired k attached.1 with ⟨_, _, from?, _⟩
  have member := (compiles.topological.members _).mp (List.contains_iff_mem.mp inside)
  rcases compiles.stated member from? with ⟨source, listed', named, _⟩
  exact ⟨source, listed', named,
    compiles.mediates attached listed' listed named.symm (of_decide_eq_true to?)⟩

end

end Script

/-- In a program of an audited script every link between the contexts is mediated by a bridge of that
very program. -/
theorem compile_mediated (c : Catalog) (s : Script) (plain : c.PlainEvents) (clean : s.audit c = []) :
    ∀ r ∈ (compile c s).roots, ∀ statements, r.outcome = .ok statements → s.Mediated c statements := by
  intro r member statements ok
  have sound := Script.audit_eq_nil.mp clean
  have compiled := Script.root_ok member ok
  have verdict := Script.root_verdict sound.nodes member
  rw [ok] at verdict
  cases verdict with
  | statements typed acyclic topological legal nodes =>
      have compiles : s.Compiles c r.event statements := ⟨plain, sound, topological, legal, compiled⟩
      exact ⟨fun st listed _ _ _ _ refers => compiles.refs listed refers,
        fun st listed _ handed _ target => compiles.flows listed handed target,
        fun st listed _ returns => compiles.backs listed returns⟩

/-- What `replied` reads in the target returns through the bridge between the two statements. -/
theorem compile_mediated_replied :
    replyCatalog.PlainEvents ∧ replied.audit replyCatalog = [] ∧
      ∃ r ∈ (compile replyCatalog replied).roots, ∃ statements, r.outcome = .ok statements ∧
        statements.map Statement.context = [.host, .host, .target, .host] ∧
        replied.Mediated replyCatalog statements := by
  have plain : replyCatalog.PlainEvents := by
    unfold Catalog.PlainEvents
    decide
  have clean : replied.audit replyCatalog = [] := by decide +kernel
  have compiled : (compile replyCatalog replied).roots.map
      (fun r => r.outcome.toOption.map fun statements => statements.map Statement.context) =
      [some [.host, .host, .target, .host]] := by decide +kernel
  have listed : some [Context.host, .host, .target, .host] ∈ (compile replyCatalog replied).roots.map
      (fun r => r.outcome.toOption.map fun statements => statements.map Statement.context) := by
    rw [compiled]
    exact List.mem_cons_self
  rcases List.mem_map.mp listed with ⟨r, member, contexts⟩
  cases outcome : r.outcome with
  | error e =>
      rw [outcome] at contexts
      cases contexts
  | ok statements =>
      rw [outcome] at contexts
      exact ⟨plain, clean, r, member, statements, outcome, Option.some.inj contexts,
        compile_mediated replyCatalog replied plain clean r member statements outcome⟩

end NodeScript
