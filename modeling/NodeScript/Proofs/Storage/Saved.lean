import NodeScript.Proofs.Storage.Files
import NodeScript.Proofs.Storage.Lasting
import NodeScript.Proofs.Storage.Levels

/-!
A saved project is loaded: what is loaded is what was written, with no current script that is not there, and the
audit of it has the issues of every script that has some.
-/
namespace NodeScript

namespace Project

variable {p : Project}

theorem settled_eq (p : Project) : p.settled = { p with
    currentScript := p.currentScript.filter fun id => id = "" || p.scripts.any (·.id = id) } := by
  obtain ⟨scripts, current⟩ := p
  cases current with
  | none => rfl
  | some id =>
    have absent : Project.script? ⟨scripts, some id⟩ id = none ↔ scripts.any (·.id = id) = false := by
      simp [script?]
    by_cases empty : id = ""
    · simp [settled, Option.filter, empty]
    · cases found : scripts.any (·.id = id) <;> simp [settled, Option.filter, empty, absent, found]

/-- Of scripts with different ids each one that has issues is in the audit once, in their order. -/
theorem audit_of_nodup (c : Catalog) (distinct : (p.scripts.map (·.id)).Nodup) :
    p.audit c = (p.scripts.filter fun s => s.audit c ≠ []).map fun s => (s.id, s.audit c) := by
  have put : p.audit c = Entries.putAll (fun id => id) (fun issues => issues) []
      ((p.scripts.filter fun s => s.audit c ≠ []).map fun s => (s.id, s.audit c)) := by
    rw [audit, Entries.putAll, List.foldl_map, List.foldl_filter]
    congr 1
    funext found s
    by_cases clean : s.audit c = [] <;> simp [clean]
  have fewer : ((p.scripts.filter fun s => s.audit c ≠ []).map (·.id)).Nodup :=
    distinct.sublist ((List.filter_sublist).map _)
  rw [put, Entries.putAll_nil (by simpa [Function.comp_def] using fewer)]
  simp

end Project

namespace ProjectFile

variable {time : String} {p : Project} {path : Text} {files left : Files}

theorem save_eq (saved : save time p path files = .ok (true, left)) :
    Record.fault? p = none ∧ (record time p).complete = true ∧ files.write path (text time p) = (true, left) := by
  unfold save at saved
  split at saved
  · contradiction
  · split at saved
    · exact ⟨‹_›, ‹_›, Except.ok.inj saved⟩
    · simp at saved

theorem save_of_write (writable : Record.fault? p = none) (complete : (record time p).complete = true)
    (written : (files.write path (text time p)).1 = true) :
    save time p path files = .ok (true, (files.write path (text time p)).2) := by
  rw [save, writable]
  exact (if_pos complete).trans (congrArg Except.ok (Prod.ext written rfl))

theorem loaded_eq (saved : save time p path files = .ok (true, left)) (ids : IdSupply) :
    load left path ids = (p.stored.settled, ids) := by
  obtain ⟨writable, complete, written⟩ := save_eq saved
  have found : left.text? path = some (text time p) := by
    have kept := Files.text?_write (congrArg Prod.fst written)
    rwa [written] at kept
  have read : Json.read (text time p) = .ok (record time p).reread :=
    Json.read_document _ complete (depth_record time writable)
  rw [load, load?, found]
  simp only [ofText?, read, reads time p ids]
  rfl

/-- A saved project is loaded as it lasts, and no id is drawn for it: as the same project exactly if all of it
lasts, without a current script that is not there. If the ids of its scripts differ, its audit has each script
that has issues with them, and no other one. -/
theorem load_save (saved : save time p path files = .ok (true, left)) (ids : IdSupply) :
    load left path ids = ({ p.stored with
      currentScript := p.stored.currentScript.filter fun id => id = "" || p.stored.scripts.any (·.id = id) }, ids) ∧
    (p.stored = p ↔ p.lasts = true) ∧
    ∀ c : Catalog, (p.stored.scripts.map (·.id)).Nodup → (load left path ids).1.audit c =
      (p.stored.scripts.filter fun s => s.audit c ≠ []).map fun s => (s.id, s.audit c) := by
  have loaded := loaded_eq saved ids
  rw [Project.settled_eq] at loaded
  refine ⟨loaded, p.stored_eq_iff, fun c distinct => ?_⟩
  rw [loaded]
  exact Project.audit_of_nodup c distinct

/-- A script with a node of a type that no catalog knows, and a current script that is not there. -/
def orphaned : Project :=
  { scripts := [{ id := "s", name := "Main", nodes := [{ id := "n", type := "log", position := { x := Json.infinity }
                                                         parameterValues := [("text", .str "hi"), ("times", .int 2),
                                                           ("rate", .float 2)] }] }]
    currentScript := some "gone" }

theorem load_save_orphaned : ∃ left, save "" orphaned "project.json" {} = .ok (true, left) ∧
    load left "project.json" {} = ({ orphaned with currentScript := none }, {}) ∧
    (load left "project.json" {}).1.audit ⟨[], rfl⟩ = [(("s" : Text), [Issue.diagnostic (.unknownType "log" "n")])] := by
  have saved : save "" orphaned "project.json" {} = .ok (true, (Files.write "project.json" (text "" orphaned) {}).2) :=
    save_of_write rfl rfl rfl
  obtain ⟨loaded, kept, audited⟩ := load_save saved {}
  have same : orphaned.stored = orphaned := kept.mpr (by decide +kernel)
  rw [same] at loaded audited
  exact ⟨_, saved, loaded, (audited ⟨[], rfl⟩ (by decide)).trans rfl⟩

def unbounded : Project :=
  { scripts := [{ id := "s", name := "Main"
                  nodes := [{ id := "n", type := "log", parameterValues := [("text", .float Json.infinity)] }] }] }

theorem load_save_unbounded : ∃ left, save "" unbounded "project.json" {} = .ok (true, left) ∧
    (load left "project.json" {}).1 ≠ unbounded := by
  have saved : save "" unbounded "project.json" {} = .ok (true, (Files.write "project.json" (text "" unbounded) {}).2) :=
    save_of_write rfl rfl rfl
  refine ⟨_, saved, fun same => ?_⟩
  rw [loaded_eq saved] at same
  exact absurd ((Project.stored_eq_iff unbounded).mp same) (by decide +kernel)

end ProjectFile

end NodeScript
