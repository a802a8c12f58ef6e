import Mathlib.SetTheory.Cardinal.Arithmetic
import NodeScript.Proofs.Program.Alike
import NodeScript.Proofs.Project.Edit
import NodeScript.Proofs.Script.Deletions

/-!
Programs of renamed scripts. A script mirrors another one if its nodes have the same contents under
other ids and its connections join them as the others are joined. Then every search of the compiler
finds the images of what it finds in the other script, in the same order, so the programs differ in
their ids only. A renamed script mirrors its original, and so does a copy.
-/
namespace NodeScript

def Node.rename (f : Text → Text) (n : Node) : Node :=
  { n with id := f n.id, parentId := n.parentId.map f }

def Connection.rename (f g : Text → Text) (k : Connection) : Connection :=
  { k with id := g k.id, fromNode := f k.fromNode, toNode := f k.toNode }

/-- Node ids are renamed by the first map and connection ids by the second one. -/
def Script.rename (f g : Text → Text) (s : Script) : Script :=
  { s with
    nodes := s.nodes.map (Node.rename f)
    connections := s.connections.map (Connection.rename f g)
    selectedNodes := s.selectedNodes.map f
    selectedConnection := s.selectedConnection.map g }

/-- One diagnostic about the other's nodes and connections, its text aside. -/
structure Diagnostic.Renamed (f : Text → Text) (link : Text → Text → Prop) (d e : Diagnostic) :
    Prop where
  kind : e.kind = d.kind
  nodes : e.nodes = d.nodes.map f
  connections : List.Forall₂ link d.connections e.connections
  fatal : e.fatal = d.fatal

/-- All that is reported about a program: the errors of its events, and its warnings. -/
def Program.diagnostics (p : Program) : List Diagnostic :=
  (p.roots.flatMap fun r => match r.outcome with
    | .error e => [e.diagnostic]
    | .ok _ => []) ++ p.warnings

structure Root.Renamed (f : Text → Text) (link : Text → Text → Prop)
    (foreign : List Text → Text → Text → Option Text) (r other : Root) : Prop where
  event : other.event = f r.event
  outcome : RenamedOutcome f link foreign r.outcome other.outcome

/-- The same program under other ids. -/
structure Program.Renamed (f : Text → Text) (link : Text → Text → Prop)
    (foreign : List Text → Text → Text → Option Text) (p q : Program) : Prop where
  roots : List.Forall₂ (Root.Renamed f link foreign) p.roots q.roots
  dead : q.dead = p.dead.map f
  diagnostics : List.Forall₂ (Diagnostic.Renamed f link) p.diagnostics q.diagnostics

def outline (n : Node) : Text × Text × Members := (n.id, Wiring.content n)

/-- The nodes of one script have the contents of the other's, and are joined as they are. -/
structure Script.Mirrored (f : Text → Text) (link : Text → Text → Prop) (s t : Script) : Prop where
  nodes : t.nodes.map outline = (s.nodes.map outline).map fun e => (f e.1, e.2)
  connections : List.Forall₂ (Connection.Renamed f link)
    (s.connections.filter (Wiring.joined s.nodes)) (t.connections.filter (Wiring.joined t.nodes))

theorem CompileError.Renamed.diagnostic {f : Text → Text} {link : Text → Text → Prop}
    {e other : CompileError} (renamed : e.Renamed f link other) :
    e.diagnostic.Renamed f link other.diagnostic := by
  cases renamed with
  | unknownTypes | cycle => exact ⟨rfl, rfl, .nil, rfl⟩
  | crossing _ _ _ _ linked => exact ⟨rfl, rfl, .cons linked .nil, rfl⟩

theorem Program.Renamed.of_roots {f : Text → Text} {link : Text → Text → Prop}
    {foreign : List Text → Text → Text → Option Text} {p q : Program}
    (roots : List.Forall₂ (Root.Renamed f link foreign) p.roots q.roots)
    (dead : q.dead = p.dead.map f) : p.Renamed f link foreign q where
  roots := roots
  dead := dead
  diagnostics := by
    apply List.rel_append
    · refine List.rel_flatMap roots ?_
      intro r other renamed
      rcases r with ⟨event, outcome⟩
      rcases other with ⟨event', outcome'⟩
      rcases renamed with ⟨_, same⟩
      cases same with
      | error renamed => exact .cons renamed.diagnostic .nil
      | ok => exact .nil
    · rw [warnings, warnings, dead]
      by_cases none : p.dead = []
      · simp [none]
      · simp only [none, List.map_eq_nil_iff, if_false]
        exact .cons ⟨rfl, rfl, .nil, rfl⟩ .nil

namespace Script

section

variable {c : Catalog} {f : Text → Text} {link : Text → Text → Prop} {s t : Script}

theorem lastNode?_outline (nodes : List Node) (id : Text) :
    (lastNode? nodes id).map Wiring.content =
      ((nodes.map outline).reverse.find? fun e => decide (e.1 = id)).map Prod.snd := by
  rw [lastNode?, ← List.map_reverse, List.find?_map, Option.map_map]
  rfl

theorem pick_outline (nodes : List Node) (keep : Text → Bool) :
    (nodes.filter fun n => keep n.type).map Node.id =
      ((nodes.map outline).filter fun e => keep e.2.1).map Prod.fst := by
  rw [List.filter_map, List.map_map]
  rfl

theorem Mirrored.pick (mirrored : Mirrored f link s t) (keep : Text → Bool) :
    (t.nodes.filter fun n => keep n.type).map Node.id =
      ((s.nodes.filter fun n => keep n.type).map Node.id).map f := by
  rw [pick_outline, pick_outline, mirrored.nodes, List.filter_map, List.map_map, List.map_map]
  rfl

theorem Mirrored.names (mirrored : Mirrored f link s t) :
    t.nodes.map Node.id = (s.nodes.map Node.id).map f := by
  simpa using mirrored.pick fun _ => true

theorem Mirrored.events (mirrored : Mirrored f link s t) : t.events c = (s.events c).map f :=
  mirrored.pick c.isEvent

theorem Mirrored.node (mirrored : Mirrored f link s t) (injective : Function.Injective f) (id : Text) :
    (lastNode? t.nodes (f id)).map Wiring.content = (lastNode? s.nodes id).map Wiring.content := by
  have same : (fun e : Text × Text × Members => decide (e.1 = f id)) ∘
      (fun e : Text × Text × Members => (f e.1, e.2)) = fun e => decide (e.1 = id) := by
    funext e
    simp [injective.eq_iff]
  rw [lastNode?_outline, lastNode?_outline, mirrored.nodes, ← List.map_reverse, List.find?_map, same,
    Option.map_map]
  rfl

theorem Mirrored.templateAt? (mirrored : Mirrored f link s t) (injective : Function.Injective f)
    (id : Text) : (Wiring.ofScript c t).templateAt? c (f id) = (Wiring.ofScript c s).templateAt? c id :=
  Wiring.templateAt?_of_content (mirrored.node injective id)

theorem Mirrored.loopsBack (mirrored : Mirrored f link s t) (injective : Function.Injective f)
    {k l : Connection} (renamed : k.Renamed f link l) :
    Wiring.loopsBack c t.nodes l = Wiring.loopsBack c s.nodes k := by
  have target : (lastNode? t.nodes (f k.toNode)).bind c.nodeTemplate? =
      (lastNode? s.nodes k.toNode).bind c.nodeTemplate? := mirrored.templateAt? injective k.toNode
  rw [Wiring.loopsBack, Wiring.loopsBack, renamed.toNode, renamed.toPort, target]

theorem Mirrored.active (mirrored : Mirrored f link s t) (injective : Function.Injective f) :
    List.Forall₂ (Connection.Renamed f link) (Wiring.ofScript c s).active
      (Wiring.ofScript c t).active := by
  have filtered := filter_of_related (p := fun k => !Wiring.loopsBack c s.nodes k)
    (q := fun k => !Wiring.loopsBack c t.nodes k) mirrored.connections fun k l renamed => by
      rw [mirrored.loopsBack injective renamed]
  exact filtered.imp fun _ _ both => both.1

theorem Mirrored.loopBack (mirrored : Mirrored f link s t) (injective : Function.Injective f) :
    List.Forall₂ (Connection.Renamed f link) (Wiring.ofScript c s).loopBack
      (Wiring.ofScript c t).loopBack := by
  have filtered := filter_of_related mirrored.connections fun k l renamed =>
    mirrored.loopsBack (c := c) injective renamed
  exact filtered.imp fun _ _ both => both.1

theorem Mirrored.edges (mirrored : Mirrored f link s t) (injective : Function.Injective f) :
    edges (Wiring.ofScript c t).active = (edges (Wiring.ofScript c s).active).map (Prod.map f f) := by
  rw [NodeScript.edges, NodeScript.edges, List.map_map]
  exact map_of_related (mirrored.active injective) fun k l renamed =>
    congrArg₂ Prod.mk renamed.fromNode renamed.toNode

theorem Mirrored.carries (mirrored : Mirrored f link s t) (injective : Function.Injective f)
    (id : Text) : carries c t.nodes (f id) = carries c s.nodes id := by
  have typed := congrArg (Option.map Prod.fst) (mirrored.node injective id)
  rw [Option.map_map, Option.map_map] at typed
  rw [carries_eq_type, carries_eq_type]
  exact congrArg (Option.any _) typed

theorem Mirrored.bridged (mirrored : Mirrored f link s t) (injective : Function.Injective f) :
    (Wiring.ofScript c t).bridged = (Wiring.ofScript c s).bridged.map f := by
  have bridges : bridges c t.nodes = (bridges c s.nodes).map f := mirrored.pick c.isBridge
  have carry := mirrored.carries (c := c) injective
  have fed : reach (NodeScript.edges (Wiring.ofScript c t).active) (NodeScript.carries c t.nodes)
        (NodeScript.bridges c t.nodes) =
      (reach (NodeScript.edges (Wiring.ofScript c s).active) (NodeScript.carries c s.nodes)
        (NodeScript.bridges c s.nodes)).map f := by
    rw [mirrored.edges injective, bridges]
    exact reach_map injective carry _
  have whole (u : Script) : (Wiring.ofScript c u).bridged =
      bridgedTargets c u.nodes (Wiring.ofScript c u).active := rfl
  rw [whole, whole, bridgedTargets, bridgedTargets, fed, ← eraseDups_map injective,
    mirrored.edges injective, List.filter_map, List.map_map, List.map_map]
  congr 2
  apply List.filter_congr
  intro e _
  simp only [Function.comp_apply, Prod.map_fst, Prod.map_snd, carry,
    List.mem_map_of_injective injective]

theorem Mirrored.idOrder (mirrored : Mirrored f link s t) (injective : Function.Injective f) :
    t.idOrder = s.idOrder.map f := by
  rw [Script.idOrder, Script.idOrder, mirrored.names, ← List.map_reverse, eraseDups_map injective,
    List.map_reverse]

theorem Mirrored.members (mirrored : Mirrored f link s t) (injective : Function.Injective f)
    (event : Text) : (Wiring.ofScript c t).members c (f event) =
      ((Wiring.ofScript c s).members c event).map f := by
  have enter (id : Text) : (!(Wiring.ofScript c t).isEventAt c (f id)) =
      !(Wiring.ofScript c s).isEventAt c id := by
    rw [Wiring.isEventAt, Wiring.isEventAt, mirrored.templateAt? injective]
  have swapped : ((NodeScript.edges (Wiring.ofScript c s).active).map (Prod.map f f)).map Prod.swap =
      ((NodeScript.edges (Wiring.ofScript c s).active).map Prod.swap).map (Prod.map f f) := by
    rw [List.map_map, List.map_map]
    rfl
  have forward : (Wiring.ofScript c t).forward c (f event) =
      ((Wiring.ofScript c s).forward c event).map f := by
    rw [Wiring.forward, Wiring.forward, mirrored.edges injective]
    exact reach_map injective enter [event]
  have found : reach ((NodeScript.edges (Wiring.ofScript c t).active).map Prod.swap)
        (fun id => !(Wiring.ofScript c t).isEventAt c id) ((Wiring.ofScript c t).forward c (f event)) =
      (reach ((NodeScript.edges (Wiring.ofScript c s).active).map Prod.swap)
        (fun id => !(Wiring.ofScript c s).isEventAt c id)
        ((Wiring.ofScript c s).forward c event)).map f := by
    rw [mirrored.edges injective, swapped, forward]
    exact reach_map injective enter _
  have listed : (Wiring.ofScript c t).idOrder = (Wiring.ofScript c s).idOrder.map f :=
    mirrored.idOrder injective
  rw [Wiring.members, Wiring.members, found, listed, List.filter_map]
  congr 1
  apply List.filter_congr
  intro id _
  rw [Function.comp_apply, Bool.eq_iff_iff, List.contains_iff_mem, List.contains_iff_mem,
    List.mem_map_of_injective injective]

theorem Mirrored.alike (mirrored : Mirrored f link s t) (injective : Function.Injective f)
    (members : List Text) :
    Wiring.Alike c f link (Wiring.ofScript c s) (Wiring.ofScript c t) members := by
  have into {l m : List Connection} (related : List.Forall₂ (Connection.Renamed f link) l m) :
      List.Forall₂ (Wiring.Wire c f link (Wiring.ofScript c s) (Wiring.ofScript c t))
        (Wiring.into members l) (Wiring.into (members.map f) m) := by
    have filtered := filter_of_related (p := fun k => decide (k.toNode ∈ members))
      (q := fun l => decide (l.toNode ∈ members.map f)) related fun k l renamed => by
        simp only [renamed.toNode, List.mem_map_of_injective injective]
    refine filtered.imp ?_
    intro k l both
    rcases both with ⟨renamed, _⟩
    refine ⟨renamed, ?_, ?_⟩
    · rw [renamed.fromNode, mirrored.templateAt? injective]
    · rw [mirrored.bridged injective, Bool.eq_iff_iff, List.contains_iff_mem, List.contains_iff_mem,
        renamed.fromNode, List.mem_map_of_injective injective]
  exact ⟨fun id _ => mirrored.node injective id, into (mirrored.active injective),
    into (mirrored.loopBack injective)⟩

/-- Scripts that mirror each other compile to the same program under other ids. -/
theorem Mirrored.compile (mirrored : Mirrored f link s t) (injective : Function.Injective f) :
    (compile c s).Renamed f link (Wiring.ofScript c s).foreign? (compile c t) := by
  apply Program.Renamed.of_roots
  · simp only [NodeScript.compile, List.map_map, mirrored.events, List.forall₂_map_left_iff,
      List.forall₂_map_right_iff, List.forall₂_same]
    intro event _
    refine ⟨rfl, ?_⟩
    have same := Wiring.compileMembers_alike
      (mirrored.alike (c := c) injective ((Wiring.ofScript c s).members c event)) injective
    rw [← mirrored.members injective] at same
    exact same
  · have covered : ((t.events c).map fun event => (event, (Wiring.ofScript c t).members c event)).flatMap
          Prod.snd =
        (((s.events c).map fun event => (event, (Wiring.ofScript c s).members c event)).flatMap
          Prod.snd).map f := by
      rw [mirrored.events, List.map_map, List.flatMap_map, List.flatMap_map, List.map_flatMap]
      exact List.flatMap_congr fun event _ => mirrored.members injective event
    have dead (u : Script) : (NodeScript.compile c u).dead = (u.nodes.map Node.id).filter fun id =>
        !(((u.events c).map fun event => (event, (Wiring.ofScript c u).members c event)).flatMap
          Prod.snd).contains id := rfl
    rw [dead, dead, covered, mirrored.names, List.filter_map]
    congr 1
    apply List.filter_congr
    intro id _
    simp only [Function.comp_apply, List.contains_eq_mem, List.mem_map_of_injective injective]

theorem rename_mirrored (injective : Function.Injective f) (g : Text → Text) (s : Script) :
    Mirrored f (fun x y => y = g x) s (s.rename f g) := by
  have names : (s.rename f g).nodes.map Node.id = (s.nodes.map Node.id).map f := by
    simp only [rename, List.map_map]
    rfl
  have joined (k : Connection) : Wiring.joined (s.rename f g).nodes (k.rename f g) =
      Wiring.joined s.nodes k := by
    rw [Bool.eq_iff_iff]
    simp only [Wiring.joined, Bool.and_eq_true, lastNode?_isSome, names, Connection.rename,
      List.mem_map_of_injective injective]
  refine ⟨?_, ?_⟩
  · simp only [rename, List.map_map]
    rfl
  · have listed : (s.rename f g).connections = s.connections.map (Connection.rename f g) := rfl
    rw [listed, List.filter_map, List.forall₂_map_right_iff]
    have kept := List.filter_congr fun k (_ : k ∈ s.connections) => joined k
    rw [Function.comp_def, kept, List.forall₂_same]
    exact fun k _ => ⟨rfl, rfl, rfl, rfl, rfl⟩

end

end Script

/-- What an injection does to finitely many ids an injection of all texts does. -/
theorem exists_injective {ids : List Text} {f : Text → Text}
    (apart : ∀ a ∈ ids, ∀ b ∈ ids, f a = f b → a = b) :
    ∃ h : Text → Text, Function.Injective h ∧ ∀ id ∈ ids, h id = f id := by
  have endless : Infinite Text := Infinite.of_injective IdSupply.idText IdSupply.idText_injective
  have finite : Finite {id | id ∈ ids} := (List.finite_toSet ids).to_subtype
  have few : Cardinal.mk {id | id ∈ ids} < Cardinal.mk Text :=
    (Cardinal.lt_aleph0_of_finite _).trans_le (Cardinal.aleph0_le_mk Text)
  let part : {id | id ∈ ids} ↪ Text :=
    ⟨fun id => f id, fun a b same => Subtype.ext (apart a a.2 b b.2 same)⟩
  -- What the ids leave of an infinite type can be matched up with what their images leave.
  rcases Cardinal.extend_function_of_lt part few ⟨Equiv.refl Text⟩ with ⟨h, agree⟩
  exact ⟨h, h.injective, fun id member => agree ⟨id, member⟩⟩

/-- The ids of a connection and of one that joins the images of what it joins. -/
def Script.Matches (f : Text → Text) (s t : Script) (x y : Text) : Prop :=
  ∃ k ∈ s.connections, ∃ l ∈ t.connections, k.Renamed f (fun a b => a = x ∧ b = y) l

namespace Project

variable {copies : List (Node × Text)} {f : Text → Text} {s t : Script}

theorem copied_mirrored (items : copies.map Prod.fst = s.nodes)
    (named : ∀ id ∈ s.nodes.map Node.id, copyOf? copies id = some (f id))
    (nodes : t.nodes = s.nodes.map (copiedNode copies))
    (links : t.connections.map Connection.link = s.connections.filterMap (copiedLink? copies)) :
    Script.Mirrored f (s.Matches f t) s t := by
  have outlined : t.nodes.map outline = (s.nodes.map outline).map fun e => (f e.1, e.2) := by
    rw [nodes, List.map_map, List.map_map]
    apply List.map_congr_left
    intro n member
    have new := named n.id (List.mem_map_of_mem member)
    simp only [Function.comp_apply, outline, copiedNode, new, Option.getD_some]
    rfl
  have names : t.nodes.map Node.id = (s.nodes.map Node.id).map f := by
    have firsts := congrArg (List.map Prod.fst) outlined
    rw [List.map_map, List.map_map, List.map_map] at firsts
    rw [List.map_map]
    exact firsts
  have ends {id new : Text} (found : copyOf? copies id = some new) :
      id ∈ s.nodes.map Node.id ∧ new = f id := by
    have there := (copyOf?_isSome items).mp (by rw [found]; rfl)
    exact ⟨there, Option.some.inj (found.symm.trans (named id there))⟩
  have copied : s.connections.filter (fun k => (copiedLink? copies k).isSome) =
      s.connections.filter (Wiring.joined s.nodes) := by
    apply List.filter_congr
    intro k _
    rw [Bool.eq_iff_iff, Wiring.joined, Bool.and_eq_true, lastNode?_isSome, lastNode?_isSome,
      ← copyOf?_isSome items, ← copyOf?_isSome items, copiedLink?]
    cases copyOf? copies k.fromNode <;> cases copyOf? copies k.toNode <;> simp
  have all : t.connections.filter (Wiring.joined t.nodes) = t.connections := by
    apply List.filter_eq_self.mpr
    intro l member
    have link : l.link ∈ s.connections.filterMap (copiedLink? copies) :=
      links ▸ List.mem_map_of_mem member
    rcases List.mem_filterMap.mp link with ⟨k, _, link⟩
    rcases copiedLink?_eq_some.mp link with ⟨first, second, _⟩
    have source : l.fromNode = f k.fromNode := (ends first).2
    have target : l.toNode = f k.toNode := (ends second).2
    rw [Wiring.joined, Bool.and_eq_true, lastNode?_isSome, lastNode?_isSome, names, source, target]
    exact ⟨List.mem_map_of_mem (ends first).1, List.mem_map_of_mem (ends second).1⟩
  refine ⟨outlined, ?_⟩
  rw [all, ← copied]
  refine (related_of_filterMap links).imp ?_
  intro k l copy
  rcases copy with ⟨⟨member, member'⟩, link⟩
  rcases copiedLink?_eq_some.mp link with ⟨first, second, port, port'⟩
  have source : l.fromNode = f k.fromNode := (ends first).2
  have target : l.toNode = f k.toNode := (ends second).2
  exact ⟨source, port.symm, target, port'.symm, k, member, l, member', source, port.symm, target,
    port'.symm, rfl, rfl⟩

theorem copyScript_mirrored (name : Option Text) (s : Script) (ids : IdSupply) :
    ∃ f : Text → Text, Function.Injective f ∧
      Script.Mirrored f (s.Matches f (copyScript name s ids).1) s (copyScript name s ids).1 := by
  have items := IdSupply.drawFor_items ids s.nodes
  have news := (IdSupply.drawFor_new ids s.nodes).distinct
  have known (id : Text) (there : id ∈ s.nodes.map Node.id) :
      ∃ new, copyOf? (ids.drawFor s.nodes).1 id = some new :=
    Option.isSome_iff_exists.mp ((copyOf?_isSome items).mpr there)
  have apart : ∀ a ∈ s.nodes.map Node.id, ∀ b ∈ s.nodes.map Node.id,
      (copyOf? (ids.drawFor s.nodes).1 a).getD a = (copyOf? (ids.drawFor s.nodes).1 b).getD b →
      a = b := by
    intro a first b second same
    rcases known a first with ⟨new, found⟩
    rcases known b second with ⟨new', found'⟩
    rw [found, found', Option.getD_some, Option.getD_some] at same
    exact copyOf?_injective news found (same ▸ found')
  rcases exists_injective apart with ⟨f, injective, agree⟩
  refine ⟨f, injective, copied_mirrored items ?_ rfl (copiedConnections_links _ _ _)⟩
  intro id there
  rcases known id there with ⟨new, found⟩
  rw [agree id there, found, Option.getD_some]

end Project

/-- Compiling does not depend on the choice of ids: a renamed script has the program of the original
under the new ids, and so has a copy. -/
theorem compile_renamed (c : Catalog) (s : Script) (f g : Text → Text)
    (injective : Function.Injective f) :
    (compile c (s.rename f g)).script = (compile c s).script ∧
      (compile c s).Renamed f (fun x y => y = g x) (Wiring.ofScript c s).foreign?
        (compile c (s.rename f g)) ∧
      ∀ (p : Project) (id name : Option Text) (ids : IdSupply), p.requireScript id = .ok s →
        ∃ copy q last, p.duplicateScript id name ids = .ok (copy, q, last) ∧
          ∃ h : Text → Text, Function.Injective h ∧
            copy.nodes.map Node.id = (s.nodes.map Node.id).map h ∧
            (compile c s).Renamed h (s.Matches h copy) (Wiring.ofScript c s).foreign?
              (compile c copy) := by
  refine ⟨rfl, (Script.rename_mirrored injective g s).compile injective, ?_⟩
  intro p id name ids found
  rcases Project.copyScript_mirrored name s ids with ⟨h, apart, mirrored⟩
  exact ⟨_, _, _, Project.duplicateScript_ok name ids found, h, apart, mirrored.names,
    mirrored.compile apart⟩

theorem compile_renamed_replied :
    Function.Injective (fun id : Text => ("new-" : Text) ++ id) ∧
      (compile replyCatalog replied).ok = true ∧
      (compile replyCatalog replied).Renamed (fun id => ("new-" : Text) ++ id) (fun _ y => y = "link")
        (Wiring.ofScript replyCatalog replied).foreign?
        (compile replyCatalog
          (replied.rename (fun id => ("new-" : Text) ++ id) fun _ => ("link" : Text))) ∧
      ({ scripts := [replied] } : Project).requireScript (some "replied") = .ok replied ∧
      ∃ copy q last,
        ({ scripts := [replied] } : Project).duplicateScript (some "replied") none {} =
          .ok (copy, q, last) ∧
        ∃ h : Text → Text, Function.Injective h ∧
          copy.nodes.map Node.id = (replied.nodes.map Node.id).map h ∧
          (compile replyCatalog replied).Renamed h (replied.Matches h copy)
            (Wiring.ofScript replyCatalog replied).foreign? (compile replyCatalog copy) := by
  have injective : Function.Injective (fun id : Text => ("new-" : Text) ++ id) := by
    intro a b same
    have letters := List.append_cancel_left (congrArg Text.letters same)
    cases a
    cases b
    exact congrArg Text.mk letters
  have found : ({ scripts := [replied] } : Project).requireScript (some "replied") = .ok replied := by
    decide
  rcases compile_renamed replyCatalog replied (fun id => ("new-" : Text) ++ id) (fun _ => "link")
    injective with ⟨_, renamed, copied⟩
  exact ⟨injective, by decide +kernel, renamed, found, copied _ _ none {} found⟩

end NodeScript
