import NodeScript.Proofs.Script.Audit
import NodeScript.Proofs.Script.Removal

namespace NodeScript

/-- The connections keep the context rule among themselves. -/
def Legal (c : Catalog) (nodes : List Node) (live : List Connection) : Prop :=
  ∀ k ∈ live, ∀ source target, HasTemplate c nodes k.fromNode source →
    HasTemplate c nodes k.toNode target →
    crossingAllowed k.fromNode source target (bridgedTargets c nodes live) = true

section

variable {c : Catalog} {nodes fewer : List Node} {live kept : List Connection}

theorem legal_iff (distinct : (nodes.map Node.id).Nodup) :
    Legal c nodes live ↔ illegal c nodes live = [] := by
  simp only [Legal, illegal_eq_nil, breaksContext_eq_false distinct]

theorem Legal.of_shape (same : shape nodes = shape fewer) (legal : Legal c nodes live) :
    Legal c fewer live := by
  intro k member source target from? to?
  rw [hasTemplate_shape, ← same, ← hasTemplate_shape] at from? to?
  rw [← bridgedTargets_of_shape same]
  exact legal k member source target from? to?

theorem bridgedTargets_wider (distinct : (nodes.map Node.id).Nodup)
    (sub : (shape fewer).Sublist (shape nodes)) :
    bridgedTargets c fewer live ⊆ bridgedTargets c nodes live := by
  have ids : (fewer.map Node.id).Sublist (nodes.map Node.id) := by
    simpa [shape, Function.comp_def] using sub.map Prod.fst
  have wider {id : Text} {t : Template} (has : HasTemplate c fewer id t) : HasTemplate c nodes id t := by
    rw [hasTemplate_shape] at has ⊢
    rcases has with ⟨type, listed, known⟩
    exact ⟨type, sub.subset listed, known⟩
  apply bridgedTargets_mono
  · intro b bridge
    rw [mem_bridges_iff_template] at bridge ⊢
    rcases bridge with ⟨t, has, bridge⟩
    exact ⟨t, wider has, bridge⟩
  · intro b may
    rw [carries_iff_template (distinct.sublist ids)] at may
    rw [carries_iff_template distinct]
    rcases may with ⟨t, has, context, plain⟩
    exact ⟨t, wider has, context, plain⟩
  · exact List.Subset.refl _

theorem Legal.wider (distinct : (nodes.map Node.id).Nodup)
    (sub : (shape fewer).Sublist (shape nodes))
    (ends : ∀ k ∈ live, (k.fromNode ∈ nodes.map Node.id → k.fromNode ∈ fewer.map Node.id) ∧
      (k.toNode ∈ nodes.map Node.id → k.toNode ∈ fewer.map Node.id))
    (legal : Legal c fewer live) : Legal c nodes live := by
  intro k member source target from? to?
  have from' := from?.of_sublist distinct sub ((ends k member).1 from?.named)
  have to' := to?.of_sublist distinct sub ((ends k member).2 to?.named)
  exact crossingAllowed_of_fed (bridgedTargets_wider distinct sub ·)
    (legal k member source target from' to')

/-- What is legal keeps the context rule beside other connections. -/
theorem Legal.keeps (distinct : (nodes.map Node.id).Nodup) (legal : Legal c nodes kept) (sub : kept ⊆ live)
    {k : Connection} (member : k ∈ kept) : breaksContext c nodes (bridgedTargets c nodes live) k = false := by
  rw [breaksContext_eq_false distinct]
  intro source target from? to?
  have wider : bridgedTargets c nodes kept ⊆ bridgedTargets c nodes live :=
    bridgedTargets_mono (List.Subset.refl _) (fun _ may => may) sub
  exact crossingAllowed_of_fed (wider ·) (legal k member source target from? to?)

theorem not_illegal_of_legal (distinct : (nodes.map Node.id).Nodup) (legal : Legal c nodes kept)
    (sub : kept ⊆ live) {k : Connection} (member : k ∈ kept) : k ∉ illegal c nodes live := by
  intro swept
  have broken := (List.mem_filter.mp swept).2
  rw [legal.keeps distinct sub member] at broken
  cases broken

theorem legal_sweep (distinct : (nodes.map Node.id).Nodup) :
    Legal c nodes (live.filter fun k => !breaksContext c nodes (bridgedTargets c nodes live) k) := by
  intro k member source target from? to?
  rcases List.mem_filter.mp member with ⟨_, kept⟩
  have allowed := (breaksContext_eq_false distinct).mp (by simpa using kept) source target from? to?
  refine crossingAllowed_of_fed (bridgedTargets_kept distinct ?_ ·) allowed
  exact fun l present _ legal => List.mem_filter.mpr ⟨present, by simp [legal]⟩

theorem subset_sweep (distinct : (nodes.map Node.id).Nodup) (legal : Legal c nodes kept)
    (sub : kept ⊆ live) :
    kept ⊆ live.filter fun k => !breaksContext c nodes (bridgedTargets c nodes live) k := by
  intro k member
  refine List.mem_filter.mpr ⟨sub member, ?_⟩
  rw [legal.keeps distinct sub member]
  rfl

theorem not_stranded_of_legal (distinct : (nodes.map Node.id).Nodup)
    (links : (live.map Connection.id).Nodup) (legal : Legal c nodes kept) (sub : kept ⊆ live) :
    ∀ k ∈ kept, k.id ∉ stranded c nodes live := by
  fun_induction stranded c nodes live with
  | case1 live found none => simp
  | case2 live found some ih =>
      -- A sweep names ids, and no other connection has the id of a legal one.
      have stays : ∀ k ∈ kept, k.id ∉ found := by
        intro k member named
        rcases List.mem_map.mp named with ⟨l, swept, same⟩
        have one : l = k :=
          List.inj_on_of_nodup_map links (List.mem_filter.mp swept).1 (sub member) same
        exact not_illegal_of_legal distinct legal sub member (one ▸ swept)
      have rest := ih (links.sublist (List.filter_sublist.map _))
        fun k member => mem_withoutIds.mpr ⟨sub member, stays k member⟩
      intro k member
      rw [List.mem_append, not_or]
      exact ⟨stays k member, rest k member⟩

/-- Every stranded connection is told of once. -/
theorem stranded_once (links : (live.map Connection.id).Nodup) :
    (stranded c nodes live).Nodup ∧ stranded c nodes live ⊆ live.map Connection.id := by
  fun_induction stranded c nodes live with
  | case1 live found none => simp
  | case2 live found some ih =>
      have first : found.Sublist (live.map Connection.id) := List.filter_sublist.map _
      have fewer : ((withoutIds found live).map Connection.id).Sublist (live.map Connection.id) :=
        List.filter_sublist.map _
      rcases ih (links.sublist fewer) with ⟨once, listed⟩
      constructor
      · refine List.nodup_append.mpr ⟨links.sublist first, once, ?_⟩
        rintro id member other again rfl
        rcases List.mem_map.mp (listed again) with ⟨k, left, rfl⟩
        exact (mem_withoutIds.mp left).2 member
      · intro id member
        rcases List.mem_append.mp member with member | member
        · exact first.subset member
        · exact fewer.subset (listed member)

end

/-- A connection that is not named and ends on no named node. -/
def Spared (nodes connections : List Text) (k : Connection) : Prop :=
  k.id ∉ connections ∧ k.fromNode ∉ nodes ∧ k.toNode ∉ nodes

/-- What is left when the nodes and connections of the ids are deleted: of the spared connections the
greatest legal set; the ids of the others are the ones removed. -/
structure Remainder (c : Catalog) (nodes connections removed : List Text) (s t : Script) : Prop where
  rest : shape t.nodes = shape (s.nodes.filter fun n => !nodes.contains n.id)
  order : t.connections.Sublist s.connections
  spared : ∀ k ∈ t.connections, Spared nodes connections k
  legal : Legal c t.nodes t.connections
  greatest : ∀ kept ⊆ s.connections, (∀ k ∈ kept, Spared nodes connections k) →
    Legal c t.nodes kept → kept ⊆ t.connections
  once : removed.Nodup
  others : ∀ id, id ∈ removed ↔
    id ∈ s.connections.map Connection.id ∧ id ∉ t.connections.map Connection.id

namespace Script

section

variable {c : Catalog} {s t u : Script} {nodes connections more others : List Text}

/-- Deleting what is not spared, and then what is stranded, leaves the remainder. -/
theorem prune_remainder {first : List Text} (distinct : (s.nodes.map Node.id).Nodup)
    (links : (s.connections.map Connection.id).Nodup) (once : first.Nodup)
    (listed : first ⊆ s.connections.map Connection.id)
    (exact : ∀ k ∈ s.connections, k.id ∉ first ↔ Spared nodes connections k)
    {removed : List Text} (all : removed = first ++
      stranded c (s.nodes.filter fun n => !nodes.contains n.id) (withoutIds first s.connections)) :
    Remainder c nodes connections removed s (s.prune nodes removed) := by
  have rest : ((s.nodes.filter fun n => !nodes.contains n.id).map Node.id).Nodup :=
    distinct.sublist (List.filter_sublist.map _)
  have fewer : ((withoutIds first s.connections).map Connection.id).Sublist
      (s.connections.map Connection.id) := List.filter_sublist.map _
  have same := shape_prune nodes removed s
  have left : (s.prune nodes removed).connections = withoutIds removed s.connections := rfl
  have swept : (stranded c (s.nodes.filter fun n => !nodes.contains n.id)
        (withoutIds first s.connections)).Nodup ∧
      stranded c (s.nodes.filter fun n => !nodes.contains n.id) (withoutIds first s.connections) ⊆
        (withoutIds first s.connections).map Connection.id := stranded_once (links.sublist fewer)
  rcases swept with ⟨strandedOnce, strandedListed⟩
  -- Order, spared, legal, greatest, each id once, and the ids of the others.
  refine ⟨same, List.filter_sublist, ?_, ?_, ?_, ?_, ?_⟩
  · intro k member
    rw [left, all, withoutIds_append, mem_withoutIds, mem_withoutIds] at member
    exact (exact k member.1.1).mp member.1.2
  · refine Legal.of_shape same.symm ((legal_iff rest).mpr ?_)
    rw [left, all, withoutIds_append]
    exact illegal_withoutIds_stranded
  · intro kept sub spared legal k member
    have inside : kept ⊆ withoutIds first s.connections := fun l listed =>
      mem_withoutIds.mpr ⟨sub listed, (exact l (sub listed)).mpr (spared l listed)⟩
    rw [left, all, withoutIds_append]
    exact mem_withoutIds.mpr ⟨inside member, not_stranded_of_legal rest (links.sublist fewer)
      (legal.of_shape same) inside k member⟩
  · rw [all]
    refine List.nodup_append.mpr ⟨once, strandedOnce, ?_⟩
    rintro id member other again rfl
    rcases List.mem_map.mp (strandedListed again) with ⟨k, stays, rfl⟩
    exact (mem_withoutIds.mp stays).2 member
  · intro id
    rw [left]
    constructor
    · intro gone
      constructor
      · rw [all] at gone
        rcases List.mem_append.mp gone with gone | gone
        · exact listed gone
        · exact fewer.subset (strandedListed gone)
      · intro stays
        rcases List.mem_map.mp stays with ⟨k, kept, rfl⟩
        exact (mem_withoutIds.mp kept).2 gone
    · rintro ⟨there, gone⟩
      rcases List.mem_map.mp there with ⟨k, member, rfl⟩
      by_contra stays
      exact gone (List.mem_map_of_mem (mem_withoutIds.mpr ⟨member, stays⟩))

theorem requireNodes_iff {given : List (Option Text)} {doomed : List Text} :
    (given.mapM fun id => Node.id <$> s.requireNode id) = .ok doomed ↔
      given = doomed.map some ∧ doomed ⊆ s.nodes.map Node.id := by
  constructor
  · intro ok
    induction given generalizing doomed with
    | nil =>
        cases ok
        exact ⟨rfl, List.nil_subset _⟩
    | cons id rest ih =>
        rw [List.mapM_cons] at ok
        rcases ok_of_bind ok with ⟨first, found, ok⟩
        rcases ok_of_bind ok with ⟨others, tail, ok⟩
        cases ok
        rcases ok_of_map found with ⟨n, looked, rfl⟩
        rcases requireNode_ok looked with ⟨member, rfl⟩
        rcases ih tail with ⟨rfl, there⟩
        exact ⟨rfl, List.cons_subset.mpr ⟨List.mem_map_of_mem member, there⟩⟩
  · rintro ⟨rfl, there⟩
    induction doomed with
    | nil => rfl
    | cons id rest ih =>
        rcases List.cons_subset.mp there with ⟨here, others⟩
        rcases Option.isSome_iff_exists.mp (node?_isSome.mpr here) with ⟨n, found⟩
        have first : s.requireNode (some id) = .ok n := requireNode_iff.mpr found
        rw [List.map_cons, List.mapM_cons, ih others, first, ← (node?_mem found).2]
        rfl

theorem touching_iff {doomed : List Text} {k : Connection}
    (links : (s.connections.map Connection.id).Nodup) (member : k ∈ s.connections) :
    k.id ∈ (s.connections.filter fun k =>
        doomed.contains k.fromNode || doomed.contains k.toNode).map Connection.id ↔
      k.fromNode ∈ doomed ∨ k.toNode ∈ doomed := by
  constructor
  · intro listed
    rcases List.mem_map.mp listed with ⟨l, touching, same⟩
    rcases List.mem_filter.mp touching with ⟨present, touching⟩
    have one : l = k := List.inj_on_of_nodup_map links present member same
    subst one
    simpa using touching
  · intro touching
    exact List.mem_map_of_mem (List.mem_filter.mpr ⟨member, by simpa using touching⟩)

theorem deleteNodes_remainder {given : List (Option Text)} {removal : Removal}
    (distinct : (s.nodes.map Node.id).Nodup) (links : (s.connections.map Connection.id).Nodup)
    (ok : s.deleteNodes c given = .ok (removal, t)) :
    (∀ id, id ∈ removal.nodes ↔ some id ∈ given) ∧
      t = s.prune removal.nodes removal.connections ∧
      Remainder c removal.nodes [] removal.connections s t := by
  rcases ok_of_bind ok with ⟨doomed, found, ok⟩
  cases ok
  refine ⟨?_, rfl, ?_⟩
  · intro id
    rw [← List.mem_eraseDups (l := given), (requireNodes_iff.mp found).1]
    simp
  · apply prune_remainder distinct links ?_ ?_ ?_ rfl
    · exact links.sublist (List.filter_sublist.map _)
    · exact List.map_subset _ (List.filter_subset_self _)
    · intro k member
      rw [touching_iff links member, Spared]
      simp [not_or]

theorem deleteConnection_remainder {id : Option Text} {removed : List Text}
    (distinct : (s.nodes.map Node.id).Nodup) (links : (s.connections.map Connection.id).Nodup)
    (ok : s.deleteConnection c id = .ok (removed, t)) :
    t = s.prune [] removed ∧ Remainder c [] id.toList removed s t := by
  rcases ok_of_bind ok with ⟨k, found, ok⟩
  cases ok
  rcases requireConnection_ok found with ⟨member, rfl⟩
  have listed : [k.id] ⊆ s.connections.map Connection.id := by simpa using ⟨k, member, rfl⟩
  refine ⟨rfl, prune_remainder distinct links (List.nodup_singleton _) listed ?_ ?_⟩
  · intro l _
    simp [Spared]
  · have all : (s.nodes.filter fun n => !([] : List Text).contains n.id) = s.nodes := by simp
    rw [all]
    rfl

end

end Script

end NodeScript
