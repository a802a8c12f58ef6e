import NodeScript.Proofs.Repetitions
import NodeScript.Proofs.Script.Deletions

/-!
What bridging is. A node is bridged exactly if a path of connections leads to it from a bridge, on
which every node but the bridge carries a reply on. So more connections bridge more, their order does
not matter, and those that break the context rule or end elsewhere bridge nothing.
-/
namespace NodeScript

/-- A node of the target context that is no bridge. A node of an unknown type is none of these. -/
def Carrier (c : Catalog) (n : Node) : Prop :=
  ∃ t, c.find? n.type = some t ∧ t.context = .target ∧ t.bridge = false

/-- A connection leads from the one node to the other, which carries a reply on. -/
structure Relays (c : Catalog) (nodes : List Node) (live : List Connection) (a b : Node) : Prop where
  member : b ∈ nodes
  carrier : Carrier c b
  linked : ∃ k ∈ live, k.fromNode = a.id ∧ k.toNode = b.id

/-- A path leads to the node from a bridge, and all its nodes after the bridge carry a reply on. -/
def Replied (c : Catalog) (nodes : List Node) (live : List Connection) (n : Node) : Prop :=
  ∃ b ∈ nodes, c.isBridge b.type = true ∧ Relation.TransGen (Relays c nodes live) b n

/-- The connection crosses between the contexts of its ends where it may not. -/
def Refused (c : Catalog) (nodes : List Node) (bridged : List Text) (k : Connection) : Prop :=
  ∃ source target, HasTemplate c nodes k.fromNode source ∧ HasTemplate c nodes k.toNode target ∧
    crossingAllowed k.fromNode source target bridged = false

section

variable {c : Catalog} {nodes : List Node} {live kept : List Connection} {id : Text}

theorem carries_iff_carrier (distinct : (nodes.map Node.id).Nodup) :
    carries c nodes id = true ↔ ∃ n ∈ nodes, n.id = id ∧ Carrier c n := by
  rw [carries_iff_template distinct]
  constructor
  · rintro ⟨t, ⟨n, member, named, known⟩, context, plain⟩
    exact ⟨n, member, named, t, known, context, plain⟩
  · rintro ⟨n, member, named, t, known, context, plain⟩
    exact ⟨t, ⟨n, member, named, known⟩, context, plain⟩

theorem Relays.feeds (distinct : (nodes.map Node.id).Nodup) {a b : Node}
    (relays : Relays c nodes live a b) : Feeds c nodes live a.id b.id :=
  ⟨mem_edges.mpr relays.linked, (carries_iff_carrier distinct).mpr ⟨b, relays.member, rfl, relays.carrier⟩⟩

theorem relays_of_feeds (distinct : (nodes.map Node.id).Nodup) {a : Node}
    (feeds : Feeds c nodes live a.id id) : ∃ b, b.id = id ∧ Relays c nodes live a b := by
  obtain ⟨edge, may⟩ := feeds
  obtain ⟨b, member, rfl, carrier⟩ := (carries_iff_carrier distinct).mp may
  exact ⟨b, rfl, member, carrier, mem_edges.mp edge⟩

theorem relays_of_path (distinct : (nodes.map Node.id).Nodup) {a : Node}
    (path : Relation.TransGen (Feeds c nodes live) a.id id) :
    ∃ b, b.id = id ∧ Relation.TransGen (Relays c nodes live) a b := by
  induction path with
  | single step =>
      obtain ⟨b, named, relays⟩ := relays_of_feeds distinct step
      exact ⟨b, named, .single relays⟩
  | tail _ step ih =>
      obtain ⟨b, rfl, before⟩ := ih
      obtain ⟨d, named, relays⟩ := relays_of_feeds distinct step
      exact ⟨d, named, before.tail relays⟩

theorem mem_bridgedTargets_iff_replied (distinct : (nodes.map Node.id).Nodup) :
    id ∈ bridgedTargets c nodes live ↔ ∃ n, n.id = id ∧ Replied c nodes live n := by
  rw [mem_bridgedTargets]
  constructor
  · rintro ⟨_, bridge, path⟩
    obtain ⟨b, member, isBridge, rfl⟩ := mem_bridges.mp bridge
    obtain ⟨n, named, path⟩ := relays_of_path distinct path
    exact ⟨n, named, b, member, isBridge, path⟩
  · rintro ⟨n, rfl, b, member, isBridge, path⟩
    exact ⟨b.id, mem_bridges.mpr ⟨b, member, isBridge, rfl⟩,
      path.lift Node.id fun _ _ relays => relays.feeds distinct⟩

theorem nodup_bridgedTargets : (bridgedTargets c nodes live).Nodup := nodup_eraseDups _

theorem breaksContext_of_refused {bridged : List Text} {k : Connection} (distinct : (nodes.map Node.id).Nodup)
    (refused : Refused c nodes bridged k) : breaksContext c nodes bridged k = true := by
  obtain ⟨source, target, from?, to?, refused⟩ := refused
  rw [breaksContext_eq distinct from? to?, refused]
  rfl

/-- Connections that may not cross, or end on a node that carries no reply on, bridge nothing. -/
theorem bridgedTargets_without (distinct : (nodes.map Node.id).Nodup) (sub : kept ⊆ live)
    (idle : ∀ k ∈ live, k ∉ kept → Refused c nodes (bridgedTargets c nodes live) k ∨
      ∀ n ∈ nodes, n.id = k.toNode → ¬ Carrier c n) (id : Text) :
    id ∈ bridgedTargets c nodes kept ↔ id ∈ bridgedTargets c nodes live := by
  constructor
  · exact fun fed => bridgedTargets_mono (List.Subset.refl _) (fun _ may => may) sub fed
  · refine fun fed => bridgedTargets_kept distinct ?_ fed
    intro k member may legal
    by_contra gone
    rcases idle k member gone with refused | elsewhere
    · rw [breaksContext_of_refused distinct refused] at legal
      cases legal
    · obtain ⟨n, there, named, carrier⟩ := (carries_iff_carrier distinct).mp may
      exact elsewhere n there named carrier

end

/-- Bridging finds, each once, the nodes to which a path leads from a bridge through nodes that carry a
reply on. It finds no fewer with more connections, the same in whatever order they are, and the same
without any of those that may not cross beside what is found or end on a node that carries none. -/
theorem bridgedTargets_replied (c : Catalog) (nodes : List Node) (live : List Connection)
    (distinct : (nodes.map Node.id).Nodup) :
    let bridged := bridgedTargets c nodes live
    (bridged.Nodup ∧ ∀ id, id ∈ bridged ↔ ∃ n, n.id = id ∧ Replied c nodes live n) ∧
    (∀ more, live ⊆ more → bridged ⊆ bridgedTargets c nodes more) ∧
    (∀ others, live.Perm others → (bridgedTargets c nodes others).Perm bridged) ∧
    ∀ kept, kept ⊆ live →
      (∀ k ∈ live, k ∉ kept → Refused c nodes bridged k ∨ ∀ n ∈ nodes, n.id = k.toNode → ¬ Carrier c n) →
      (bridgedTargets c nodes kept).Perm bridged := by
  intro bridged
  refine ⟨⟨nodup_bridgedTargets, fun id => mem_bridgedTargets_iff_replied distinct⟩, ?_, ?_, ?_⟩
  · intro more sub
    exact bridgedTargets_mono (List.Subset.refl _) (fun _ may => may) sub
  · intro others perm
    rw [List.perm_ext_iff_of_nodup nodup_bridgedTargets nodup_bridgedTargets]
    exact fun id => (bridgedTargets_perm perm id).symm
  · intro kept sub idle
    rw [List.perm_ext_iff_of_nodup nodup_bridgedTargets nodup_bridgedTargets]
    exact bridgedTargets_without distinct sub idle

/-- Two readers feed each other, and the second one itself; a third one is fed by nothing. -/
def ring : List Node :=
  replied.nodes ++ [{ id := "echo", type := "read" }, { id := "lone", type := "read" },
    { id := "ghost", type := "ghost" }]

def ringLinks : List Connection := [
  { id := "r0", fromNode := "bridge", fromPort := "exec", toNode := "read", toPort := "exec" },
  { id := "r1", fromNode := "read", fromPort := "exec", toNode := "echo", toPort := "exec" },
  { id := "r2", fromNode := "echo", fromPort := "exec", toNode := "read", toPort := "exec" },
  { id := "r3", fromNode := "echo", fromPort := "value", toNode := "echo", toPort := "exec" },
  { id := "r4", fromNode := "ghost", fromPort := "exec", toNode := "lone", toPort := "exec" }]

/-- It may not cross, for nothing bridges its source. -/
def loneLink : Connection :=
  { id := "r5", fromNode := "lone", fromPort := "value", toNode := "log", toPort := "message" }

def lostLink : Connection :=
  { id := "r6", fromNode := "bridge", fromPort := "exec", toNode := "gone", toPort := "exec" }

theorem bridgedTargets_replied_ring :
    (ring.map Node.id).Nodup ∧
      (∃ n, n.id = ("echo" : Text) ∧ Replied replyCatalog ring (ringLinks ++ [loneLink, lostLink]) n) ∧
      (¬ ∃ n, n.id = ("lone" : Text) ∧ Replied replyCatalog ring (ringLinks ++ [loneLink, lostLink]) n) ∧
      (bridgedTargets replyCatalog ring ringLinks).Perm
        (bridgedTargets replyCatalog ring (ringLinks ++ [loneLink, lostLink])) := by
  have distinct : (ring.map Node.id).Nodup := by decide
  obtain ⟨⟨-, exact⟩, -, -, without⟩ :=
    bridgedTargets_replied replyCatalog ring (ringLinks ++ [loneLink, lostLink]) distinct
  have fed : bridgedTargets replyCatalog ring (ringLinks ++ [loneLink, lostLink]) =
      [("read" : Text), "echo"] := by decide +kernel
  refine ⟨distinct, (exact "echo").mp ?_, fun replied => ?_, without ringLinks (List.subset_append_left _ _) ?_⟩
  · rw [fed]
    decide
  · have there := (exact "lone").mpr replied
    rw [fed] at there
    exact absurd there (by decide)
  · intro k member gone
    rcases List.mem_append.mp member with member | member
    · exact absurd member gone
    · rcases List.mem_pair.mp member with rfl | rfl
      · refine .inl ⟨_, _, ⟨{ id := "lone", type := "read" }, by decide, rfl, rfl⟩,
          ⟨{ id := "log", type := "log" }, by decide, rfl, rfl⟩, ?_⟩
        rw [fed]
        decide
      · have nowhere : lostLink.toNode ∉ ring.map Node.id := by decide
        exact .inr fun n there named _ => nowhere (named ▸ List.mem_map_of_mem there)

end NodeScript
