import NodeScript.Catalog.Standard
import NodeScript.Proofs.Program.Statements

/-!
The verdict on an event. Four cases exclude each other and one of them always holds: a member of
unknown type, a cycle of active connections among the members, a connection into a member that
breaks the context rule, or none of these. The compiler gives the answer of the case that holds, for
every event of the script, and it never fails in doing so.
-/
namespace NodeScript

namespace Script

section

variable (c : Catalog) (s : Script) (event : Text)

def Untyped (id : Text) : Prop := ∃ n ∈ s.nodes, n.id = id ∧ c.find? n.type = none

/-- The active connections between members contain a cycle. -/
def Loops : Prop :=
  ∃ a, Relation.TransGen
    (fun a b => s.Step c a b ∧ s.Member c event a ∧ s.Member c event b) a a

/-- What is bridged if only active connections count. -/
def activeBridged : List Text := (Wiring.ofScript c s).bridged

/-- A connection into a member that breaks the context rule, whether it re-enters a loop or not. -/
structure Crosses (k : Connection) (source target : Template) : Prop where
  attached : s.Attached k
  member : s.Member c event k.toNode
  from? : HasTemplate c s.nodes k.fromNode source
  to? : HasTemplate c s.nodes k.toNode target
  refused : crossingAllowed k.fromNode source target (s.activeBridged c) = false

def order : List Text :=
  (schedule (edges (Wiring.ofScript c s).active) ((Wiring.ofScript c s).members c event)).1

/-- An order of the members in which the source of an active connection comes before its target. -/
structure Topological (order : List Text) : Prop where
  distinct : order.Nodup
  members : ∀ id, id ∈ order ↔ s.Member c event id
  before : ∀ a b, s.Step c a b → s.Member c event a → s.Member c event b →
    order.idxOf a < order.idxOf b

/-- The answer that an event deserves. -/
inductive Verdict : Except CompileError (List Statement) → Prop where
  | unknown {types ids : List Text} (some : ids ≠ []) (sub : ids.Sublist (s.nodes.map Node.id))
      (exact : ∀ id, id ∈ ids ↔ s.Member c event id ∧ s.Untyped c id)
      (named : ∀ type, type ∈ types ↔ ∃ n ∈ s.nodes, n.id ∈ ids ∧ n.type = type) :
      Verdict (.error (.unknownTypes types ids))
  | cycle {ids : List Text} (typed : ∀ id, s.Member c event id → ¬s.Untyped c id)
      (loops : s.Loops c event) : Verdict (.error (.cycle ids))
  | crossing {k : Connection} {source target : Template}
      (typed : ∀ id, s.Member c event id → ¬s.Untyped c id) (acyclic : ¬s.Loops c event)
      (topological : s.Topological c event (s.order c event)) (crosses : s.Crosses c event k source target)
      (earliest : ∀ l source target, s.Crosses c event l source target →
        (s.order c event).idxOf k.toNode ≤ (s.order c event).idxOf l.toNode) :
      Verdict (.error (.crossing k.fromNode source.context k.toNode target.context k.id))
  | statements {statements : List Statement}
      (typed : ∀ id, s.Member c event id → ¬s.Untyped c id) (acyclic : ¬s.Loops c event)
      (topological : s.Topological c event (s.order c event))
      (legal : ∀ k source target, ¬s.Crosses c event k source target)
      (nodes : statements.map Statement.node = s.order c event) : Verdict (.ok statements)

end

section

variable {c : Catalog} {s : Script} {event id : Text}

theorem untyped_iff (distinct : (s.nodes.map Node.id).Nodup) (named : id ∈ s.nodes.map Node.id) :
    s.Untyped c id ↔ (Wiring.ofScript c s).templateAt? c id = none := by
  obtain ⟨n, member, rfl⟩ := List.mem_map.mp named
  have found : (Wiring.ofScript c s).node? n.id = some n := lastNode?_of_mem distinct member
  rw [Wiring.templateAt?, found, Option.bind_some]
  constructor
  · intro untyped
    obtain ⟨m, present, same, none⟩ := untyped
    have one : m = n := List.inj_on_of_nodup_map distinct present member same
    exact one ▸ none
  · exact fun none => ⟨n, member, rfl, none⟩

theorem mem_activeBridged (distinct : (s.nodes.map Node.id).Nodup) :
    id ∈ s.activeBridged c ↔ ∃ b ∈ bridges c s.nodes,
      Relation.TransGen (fun a b => s.Step c a b ∧ carries c s.nodes b = true) b id := by
  have step : Feeds c s.nodes (Wiring.ofScript c s).active =
      fun a b => s.Step c a b ∧ carries c s.nodes b = true := by
    funext a b
    simp only [Feeds, Follows, Wiring.mem_edges_active distinct]
  have bridged : s.activeBridged c = bridgedTargets c s.nodes (Wiring.ofScript c s).active := rfl
  rw [bridged, mem_bridgedTargets, step]

theorem within_members (distinct : (s.nodes.map Node.id).Nodup) (named : event ∈ s.nodes.map Node.id) :
    Within (edges (Wiring.ofScript c s).active) ((Wiring.ofScript c s).members c event) =
      fun a b => s.Step c a b ∧ s.Member c event a ∧ s.Member c event b := by
  funext a b
  simp only [Within, Wiring.mem_edges_active distinct, Wiring.mem_members distinct named]

theorem loops_iff (distinct : (s.nodes.map Node.id).Nodup) (named : event ∈ s.nodes.map Node.id) :
    s.Loops c event ↔
      Cyclic (edges (Wiring.ofScript c s).active) ((Wiring.ofScript c s).members c event) := by
  rw [Cyclic, within_members distinct named, Loops]

theorem order_topological (distinct : (s.nodes.map Node.id).Nodup)
    (named : event ∈ s.nodes.map Node.id) (acyclic : ¬s.Loops c event) :
    s.Topological c event (s.order c event) := by
  have all : (s.order c event).Perm ((Wiring.ofScript c s).members c event) :=
    schedule_all (fun cyclic => acyclic ((loops_iff distinct named).mpr cyclic))
  refine ⟨all.nodup_iff.mpr (Wiring.members_nodup distinct), ?_, ?_⟩
  · intro id
    rw [all.mem_iff, Wiring.mem_members distinct named]
  · intro a b step source target
    rw [← Wiring.mem_members distinct named] at source target
    exact schedule_before ((Wiring.mem_edges_active distinct).mpr step) source
      (all.mem_iff.mpr target)

theorem crossingError?_eq_some {k : Connection} {error : CompileError}
    (distinct : (s.nodes.map Node.id).Nodup) (attached : s.Attached k)
    (member : s.Member c event k.toNode) :
    (Wiring.ofScript c s).crossingError? c k = some error ↔ ∃ source target,
      s.Crosses c event k source target ∧
        error = .crossing k.fromNode source.context k.toNode target.context k.id := by
  constructor
  · intro found
    unfold Wiring.crossingError? at found
    split at found
    · rename_i source target first second
      split at found
      · cases found
      · rename_i refused
        cases found
        exact ⟨source, target, ⟨attached, member, (Wiring.templateAt?_iff distinct).mp first,
          (Wiring.templateAt?_iff distinct).mp second, Bool.eq_false_iff.mpr refused⟩, rfl⟩
    · cases found
  · intro crosses
    rcases crosses with ⟨source, target, crosses, same⟩
    have refused : crossingAllowed k.fromNode source target (Wiring.ofScript c s).bridged = false :=
      crosses.refused
    simp only [Wiring.crossingError?, (Wiring.templateAt?_iff distinct).mpr crosses.from?,
      (Wiring.templateAt?_iff distinct).mpr crosses.to?, refused, same, Bool.false_eq_true, if_false]

theorem firstCrossing?_eq_none (distinct : (s.nodes.map Node.id).Nodup)
    (topological : s.Topological c event (s.order c event))
    (none : (Wiring.ofScript c s).firstCrossing? c (s.order c event) = none) (k : Connection)
    (source target : Template) : ¬s.Crosses c event k source target := by
  intro crosses
  rw [Wiring.firstCrossing?, List.findSome?_eq_none_iff] at none
  have arrives : k ∈ (s.order c event).flatMap fun id =>
      (Wiring.ofScript c s).incoming id ++ (Wiring.ofScript c s).reentering id :=
    List.mem_flatMap.mpr ⟨k.toNode, (topological.members _).mpr crosses.member,
      Wiring.mem_arriving.mpr ⟨(Wiring.attached_iff distinct).mpr crosses.attached, rfl⟩⟩
  have found := (crossingError?_eq_some distinct crosses.attached crosses.member).mpr
    ⟨source, target, crosses, rfl⟩
  rw [none k arrives] at found
  cases found

theorem firstCrossing?_eq_some {error : CompileError} (distinct : (s.nodes.map Node.id).Nodup)
    (topological : s.Topological c event (s.order c event))
    (found : (Wiring.ofScript c s).firstCrossing? c (s.order c event) = some error) :
    ∃ k source target, s.Crosses c event k source target ∧
      error = .crossing k.fromNode source.context k.toNode target.context k.id ∧
      ∀ l source target, s.Crosses c event l source target →
        (s.order c event).idxOf k.toNode ≤ (s.order c event).idxOf l.toNode := by
  rw [Wiring.firstCrossing?, findSome?_flatMap, List.findSome?_eq_some_iff] at found
  obtain ⟨before, id, after, split, here, legal⟩ := found
  obtain ⟨k, arrives, refused⟩ := List.exists_of_findSome?_eq_some here
  obtain ⟨present, rfl⟩ := Wiring.mem_arriving.mp arrives
  have attached := (Wiring.attached_iff distinct).mp present
  have member : s.Member c event k.toNode := by
    apply (topological.members _).mp
    simp [split]
  obtain ⟨source, target, crosses, same⟩ :=
    (crossingError?_eq_some distinct attached member).mp refused
  refine ⟨k, source, target, crosses, same, ?_⟩
  intro l from' to' other
  have later : l.toNode ∉ before := by
    intro earlier
    have none := List.findSome?_eq_none_iff.mp (legal l.toNode earlier) l
      (Wiring.mem_arriving.mpr ⟨(Wiring.attached_iff distinct).mpr other.attached, rfl⟩)
    have some := (crossingError?_eq_some distinct other.attached other.member).mpr
      ⟨from', to', other, rfl⟩
    rw [none] at some
    cases some
  have new : k.toNode ∉ before := by
    have whole := topological.distinct
    rw [split] at whole
    exact fun old => List.disjoint_of_nodup_append whole old List.mem_cons_self
  rw [split, List.idxOf_append_of_notMem later, List.idxOf_append_of_notMem new,
    List.idxOf_cons_self]
  omega

theorem mem_typesOf {ids : List Text} {type : Text} (distinct : (s.nodes.map Node.id).Nodup) :
    type ∈ (Wiring.ofScript c s).typesOf ids ↔ ∃ n ∈ s.nodes, n.id ∈ ids ∧ n.type = type := by
  have found (id : Text) (n : Node) : (Wiring.ofScript c s).node? id = some n ↔ n ∈ s.nodes ∧ n.id = id :=
    lastNode?_iff distinct
  simp only [Wiring.typesOf, sortedNames, List.mem_mergeSort, List.mem_eraseDups, List.mem_filterMap,
    Option.map_eq_some_iff, found]
  constructor
  · intro listed
    rcases listed with ⟨_, member, n, ⟨present, rfl⟩, typed⟩
    exact ⟨n, present, member, typed⟩
  · intro listed
    rcases listed with ⟨n, present, member, typed⟩
    exact ⟨n.id, member, n, ⟨present, rfl⟩, typed⟩

theorem compileMembers_eq (w : Wiring) (members : List Text) :
    w.compileMembers c members =
      if w.unknownMembers c members ≠ [] then
        .error (.unknownTypes (w.typesOf (w.unknownMembers c members)) (w.unknownMembers c members))
      else if (schedule (edges w.active) members).2 ≠ [] then
        .error (.cycle (core (edges w.active) (schedule (edges w.active) members).2))
      else match w.firstCrossing? c (schedule (edges w.active) members).1 with
        | some error => .error error
        | none => .ok (w.statementsFrom c (schedule (edges w.active) members).1 0
            (schedule (edges w.active) members).1) := rfl

theorem compileMembers_verdict (distinct : (s.nodes.map Node.id).Nodup)
    (named : event ∈ s.nodes.map Node.id) :
    s.Verdict c event
      ((Wiring.ofScript c s).compileMembers c ((Wiring.ofScript c s).members c event)) := by
  have member (id : Text) : id ∈ (Wiring.ofScript c s).members c event ↔ s.Member c event id :=
    Wiring.mem_members distinct named
  have unknown (id : Text) : id ∈ (Wiring.ofScript c s).unknownMembers c
      ((Wiring.ofScript c s).members c event) ↔ s.Member c event id ∧ s.Untyped c id := by
    rw [Wiring.unknownMembers, List.mem_filter, member, Option.isNone_iff_eq_none]
    refine and_congr_right fun inside => ?_
    rw [untyped_iff distinct (Wiring.member_named named inside)]
  -- The answers are those of the branches: unknown types, a cycle, a crossing, statements.
  rw [compileMembers_eq]
  split
  · rename_i some
    refine .unknown some ?_ unknown fun type => mem_typesOf distinct
    exact List.filter_sublist.trans (Wiring.members_sublist distinct)
  · rename_i none
    have empty := not_not.mp none
    have typed (id : Text) (inside : s.Member c event id) : ¬s.Untyped c id := by
      intro untyped
      have listed := (unknown id).mpr ⟨inside, untyped⟩
      rw [empty] at listed
      cases listed
    split
    · rename_i stays
      exact .cycle typed ((loops_iff distinct named).mpr (cyclic_of_left stays))
    · rename_i all
      have acyclic : ¬s.Loops c event :=
        fun loops => left_eq_nil.mp (not_not.mp all) ((loops_iff distinct named).mp loops)
      have topological := order_topological distinct named acyclic
      split
      · rename_i error found
        obtain ⟨k, source, target, crosses, rfl, earliest⟩ :=
          firstCrossing?_eq_some distinct topological found
        exact .crossing typed acyclic topological crosses earliest
      · rename_i legal
        refine .statements typed acyclic topological
          (firstCrossing?_eq_none distinct topological legal) ?_
        apply Wiring.statementsFrom_nodes
        intro id placed
        have inside := (topological.members id).mp placed
        exact Wiring.unknownMembers_eq_nil.mp empty id ((member id).mpr inside)

theorem root_named {r : Root} (member : r ∈ (compile c s).roots) : r.event ∈ s.nodes.map Node.id := by
  simp only [compile, List.map_map, List.mem_map] at member
  rcases member with ⟨event, listed, rfl⟩
  exact event_named listed

theorem root_outcome {r : Root} (member : r ∈ (compile c s).roots) :
    r.outcome = (Wiring.ofScript c s).compileMembers c ((Wiring.ofScript c s).members c r.event) := by
  simp only [compile, List.map_map, List.mem_map] at member
  rcases member with ⟨event, _, rfl⟩
  rfl

theorem root_ok {r : Root} {statements : List Statement} (member : r ∈ (compile c s).roots)
    (ok : r.outcome = .ok statements) :
    statements =
      (Wiring.ofScript c s).statementsFrom c (s.order c r.event) 0 (s.order c r.event) := by
  rw [root_outcome member, compileMembers_eq] at ok
  split at ok
  · cases ok
  · split at ok
    · cases ok
    · split at ok
      · cases ok
      · exact (Except.ok.inj ok).symm

theorem root_verdict {r : Root} (distinct : (s.nodes.map Node.id).Nodup)
    (member : r ∈ (compile c s).roots) : s.Verdict c r.event r.outcome := by
  rw [root_outcome member]
  exact compileMembers_verdict distinct (root_named member)

end

end Script

end NodeScript
