import NodeScript.Proofs.Catalog
import NodeScript.Proofs.Script.Edit

namespace NodeScript

namespace Script

variable {c : Catalog} {ids more : IdSupply} {s t : Script}

theorem typesMeet_iff {source target : Template} {fromType toType : PortType} :
    typesMeet source target fromType toType = true ↔ TypesMeet source target fromType toType := by
  simp [typesMeet, TypesMeet, and_assoc]

theorem checkLink_ok {l : LinkDraft} {link : Link} (ok : s.checkLink c l = .ok link) :
    ∃ source target output input,
      HasTemplate c s.nodes link.fromNode source ∧ HasTemplate c s.nodes link.toNode target ∧
      source.output? link.fromPort = some output ∧ target.input? link.toPort = some input ∧
      TypesMeet source target output.type input.type ∧
      crossingAllowed link.fromNode source target (s.bridged c) = true ∧
      s.connectionTo? link.toNode link.toPort = none := by
  unfold checkLink at ok
  obtain ⟨fromNode, first, ok⟩ := ok_of_bind ok
  obtain ⟨toNode, second, ok⟩ := ok_of_bind ok
  obtain ⟨source, known, ok⟩ := ok_of_bind ok
  obtain ⟨target, known', ok⟩ := ok_of_bind ok
  cases out : l.fromPort.bind source.output? with
  | none => simp [out] at ok
  | some output =>
  cases into : l.toPort.bind target.input? with
  | none => simp [out, into] at ok
  | some input =>
  by_cases meet : typesMeet source target output.type input.type = true
  swap
  · simp [out, into, meet] at ok
    cases ok
  by_cases allowed : crossingAllowed fromNode.id source target (s.bridged c) = true
  swap
  · simp [out, into, meet, allowed] at ok
    cases ok
  cases free : s.connectionTo? toNode.id input.name with
  | some existing =>
      simp [out, into, meet, allowed, free] at ok
      cases ok
  | none =>
      simp only [out, into, meet, allowed, free, if_true] at ok
      cases ok
      obtain ⟨member, _⟩ := requireNode_ok first
      obtain ⟨member', _⟩ := requireNode_ok second
      obtain ⟨fromPort, _, outputs⟩ := Option.bind_eq_some_iff.mp out
      obtain ⟨toPort, _, inputs⟩ := Option.bind_eq_some_iff.mp into
      refine ⟨source, target, output, input, ⟨fromNode, member, rfl, Catalog.templateOf_ok.mp known⟩,
        ⟨toNode, member', rfl, Catalog.templateOf_ok.mp known'⟩, ?_, ?_, typesMeet_iff.mp meet, allowed,
        free⟩
      · rw [Template.output?_name outputs]
        exact outputs
      · rw [Template.input?_name inputs]
        exact inputs

theorem connectionTo?_eq_none {id port : Text} :
    s.connectionTo? id port = none ↔ (id, port) ∉ s.connections.map Connection.input := by
  simp only [connectionTo?, List.find?_eq_none, List.mem_map, Connection.input, Prod.mk.injEq,
    not_exists, not_and]
  simp

theorem connect_kept {l : LinkDraft} {k : Connection} (ok : s.connect c l ids = .ok (k, t, more)) :
    Kept c ids more s t := by
  obtain ⟨link, checked, ok⟩ := ok_of_bind ok
  obtain ⟨source, target, output, input, from?, to?, out, into, meet, allowed, free⟩ :=
    checkLink_ok checked
  cases ok
  refine ⟨rfl, IdSupply.le_draw ids, fun sound => ?_⟩
  refine sound.extend [] [link.connection ids.draw.1] (by simp) rfl
    (IdSupply.new_nil (IdSupply.le_draw ids)) (IdSupply.new_draw ids) (by simp) (by simp) ?_ ?_ ?_
  · intro k member
    obtain rfl := List.mem_singleton.mp member
    have noEvent : target.isEvent = false := by
      obtain ⟨_, _, _, known⟩ := to?
      exact Catalog.not_event_of_input known into
    exact ⟨source, target, output, input, from?, to?, out, into, meet, noEvent⟩
  · rw [List.map_append]
    refine List.nodup_append.mpr ⟨sound.formed.inputs, List.nodup_singleton _, ?_⟩
    rintro a old b new rfl
    obtain rfl := List.mem_singleton.mp new
    exact connectionTo?_eq_none.mp free old
  · intro k member
    obtain rfl := List.mem_singleton.mp member
    refine (breaksContext_eq_false sound.formed.nodes).mpr ?_
    intro source' target' from' to'
    cases from'.unique sound.formed.nodes from?
    cases to'.unique sound.formed.nodes to?
    have wider : s.bridged c ⊆
        bridgedTargets c s.nodes (s.connections ++ [link.connection ids.draw.1]) :=
      bridgedTargets_mono (List.Subset.refl _) (fun _ may => may) (List.subset_append_left _ _)
    exact crossingAllowed_of_fed (wider ·) allowed

end Script

end NodeScript
