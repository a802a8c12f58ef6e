import NodeScript.Proofs.Editor.Standing
import NodeScript.Proofs.Entries
import NodeScript.Proofs.Project.Rules
import NodeScript.Workspace.Editing

namespace NodeScript

def EditorStep.isSearch : EditorStep → Bool
  | .searchOn .. => true
  | _ => false

/-- Holds of a new editor at its script, after every step of an editor, and still if the script is
extended or changed in what the editor does not name. What becomes of a search is left open. -/
structure Steady (c : Catalog) (P : Script → Editor → Prop) : Prop where
  start : ∀ s recents ids, P (Desk.start s recents ids).script (Desk.start s recents ids).editor
  after : ∀ step d, step.isSearch = false → P d.script d.editor →
    P (Desk.after c d step).script (Desk.after c d step).editor
  extended : ∀ s t e, s.Within t → t.selectedNodes = s.selectedNodes →
    t.selectedConnection = s.selectedConnection → P s e → P t e

namespace Desk

structure Leads (P : Script → Editor → Prop) (d e : Desk) : Prop where
  id : e.script.id = d.script.id
  keeps : P d.script d.editor → P e.script e.editor

theorem Leads.refl {P : Script → Editor → Prop} {d : Desk} : Leads P d d := ⟨rfl, fun held => held⟩

theorem after_leads {c : Catalog} {P : Script → Editor → Prop} (steady : Steady c P)
    (step : EditorStep) (searchless : step.isSearch = false) (d : Desk) : Leads P d (d.after c step) :=
  ⟨(after_kept (c := c) step d).id, steady.after step d searchless⟩

end Desk

namespace Workspace

/-- Every editor is one of a script that is there, and it holds of the editor and the first script
of its id. -/
structure Each (P : Script → Editor → Prop) (w : Workspace) : Prop where
  scripts : ∀ id ∈ w.editors.map Prod.fst, id ∈ w.project.scripts.map Script.id
  holds : ∀ id s found, w.project.script? id = some s → w.editors.lookup id = some found →
    P s found.editor

section

variable {c : Catalog} {P : Script → Editor → Prop} {w v : Workspace} {s t : Script}

theorem each_of_noEditors (none : w.editors = []) : w.Each P := by
  refine ⟨?_, ?_⟩ <;> simp [none]

theorem Each.congr (each : w.Each P) (scripts : v.project.scripts = w.project.scripts)
    (editors : v.editors = w.editors) : v.Each P := by
  refine ⟨?_, fun id s found there known => ?_⟩
  · rw [scripts, editors]
    exact each.scripts
  · rw [Project.script?, scripts] at there
    exact each.holds id s found there (editors ▸ known)

theorem script_found {given : Option Text} (ok : w.script given = .ok s) :
    w.project.script? s.id = some s := by
  unfold script at ok
  split at ok
  · cases ok
  · rename_i id _
    split at ok
    · rename_i found
      cases ok
      split at found
      · cases found
      · rwa [(Project.script?_mem found).2]
    · cases ok

theorem requireScript_found {p : Project} {id : Option Text} (ok : p.requireScript id = .ok s) :
    p.script? s.id = some s := by
  obtain ⟨given, _, looked⟩ := Option.bind_eq_some_iff.mp (Project.requireScript_iff.mp ok)
  rw [(Project.script?_mem looked).2, looked]

theorem script?_replaceScript {p : Project} {id : Text} (found : p.script? t.id = some s) :
    (p.replaceScript t.id t).script? id = if id = t.id then some t else p.script? id := by
  simp only [Project.script?, Project.replaceScript] at found ⊢
  generalize p.scripts = scripts at found ⊢
  induction scripts with
  | nil => cases found
  | cons u rest ih =>
      unfold Project.replaceFirst
      by_cases here : u.id = t.id
      · by_cases same : id = t.id
        · simp [here, same]
        · simp [here, same, Ne.symm same]
      · simp only [here, if_false, List.find?_cons] at found ⊢
        rw [ih found]
        by_cases this : u.id = id
        · have apart : id ≠ t.id := this ▸ here
          simp [this, apart]
        · simp [this]

theorem script_replaced (here : w.project.script? t.id = some s)
    (project : v.project = w.project.replaceScript t.id t) (given : Option Text) :
    v.script given = (w.script given).map fun u => if u.id = t.id then t else u := by
  have meant : v.meant given = w.meant given := by
    simp only [meant, project, Project.replaceScript]
  unfold script
  rw [meant]
  cases w.meant given with
  | none => rfl
  | some id =>
      by_cases empty : id = ""
      · simp only [empty, if_true]
        rfl
      · simp only [empty, if_false, project, script?_replaceScript here]
        by_cases same : id = t.id
        · simp only [same, if_true, here, Except.map, (Project.script?_mem here).2]
        · cases found : w.project.script? id with
          | none => simp [same, Except.map]
          | some u => simp [same, Except.map, (Project.script?_mem found).2]

theorem ids_replaceScript {p : Project} :
    (p.replaceScript t.id t).scripts.map Script.id = p.scripts.map Script.id :=
  Project.replaceFirst_ids rfl p.scripts

theorem Each.replaced (each : w.Each P) (here : w.project.script? t.id = some s)
    (project : v.project = w.project.replaceScript t.id t)
    (names : ∀ id ∈ v.editors.map Prod.fst, id ∈ w.editors.map Prod.fst ∨ id = t.id)
    (others : ∀ id, id ≠ t.id → v.editors.lookup id = w.editors.lookup id)
    (held : ∀ found, v.editors.lookup t.id = some found → P t found.editor) : v.Each P := by
  refine ⟨fun id member => ?_, fun id u found there known => ?_⟩
  · rw [project, ids_replaceScript]
    rcases names id member with old | rfl
    · exact each.scripts id old
    · have present := Project.script?_mem here
      exact present.2 ▸ List.mem_map_of_mem present.1
  · rw [project, script?_replaceScript here] at there
    split at there
    · rename_i same
      cases there
      exact held found (same ▸ known)
    · rename_i other
      exact each.holds id u found there (others id other ▸ known)

theorem setScript_each (each : w.Each P) (here : w.project.script? s.id = some s)
    (named : t.id = s.id)
    (kept : ∀ found, w.editors.lookup s.id = some found → P s found.editor →
      P t found.editor) : (w.setScript t).Each P := by
  rw [← named] at here kept
  exact each.replaced here rfl (fun id member => Or.inl member) (fun _ _ => rfl)
    fun found known => kept found known (each.holds t.id s found here known)

theorem extend_each (steady : Steady c P) (each : w.Each P) (here : w.project.script? s.id = some s)
    (named : t.id = s.id) (within : s.Within t) (nodes : t.selectedNodes = s.selectedNodes)
    (connection : t.selectedConnection = s.selectedConnection) : (w.setScript t).Each P :=
  setScript_each each here named fun found _ =>
    steady.extended s t found.editor within nodes connection

theorem onScript_eq {α : Type} {work : Script → Outcome α} {given : Option Text}
    (found : w.script given = .ok s) : w.onScript given work = work s := by
  rw [onScript, found]

theorem atDesk_eq {α : Type} {work : Desk → Except EditError α × List Announcement × Desk}
    {given : Option Text} (found : w.script given = .ok s) :
    w.atDesk given work =
      { answer := (work (w.desk s)).1, announcements := (work (w.desk s)).2.1,
        workspace := w.putDesk (work (w.desk s)).2.2 } := onScript_eq found

theorem onScript_missing {α : Type} {work : Script → Outcome α} {given : Option Text} {e : GraphError}
    (missing : w.script given = .error e) : w.onScript given work = w.failed (.graph e) := by
  rw [onScript, missing]

theorem atDesk_missing {α : Type} {work : Desk → Except EditError α × List Announcement × Desk}
    {given : Option Text} {e : GraphError} (missing : w.script given = .error e) :
    w.atDesk given work = w.failed (.graph e) := onScript_missing missing

theorem desk_script (s : Script) (w : Workspace) : (w.desk s).script.id = s.id := by
  unfold desk
  split <;> rfl

theorem desk_holds (steady : Steady c P) (each : w.Each P) (here : w.project.script? s.id = some s) :
    P (w.desk s).script (w.desk s).editor := by
  unfold desk
  split
  · rename_i found known
    exact each.holds s.id s found here known
  · exact steady.start s w.recents w.ids

theorem putDesk_each {d : Desk} (each : w.Each P)
    (here : w.project.script? d.script.id = some s) (held : P d.script d.editor) :
    (w.putDesk d).Each P := by
  refine each.replaced here rfl ?_ ?_ ?_
  · exact fun id member => (Entries.names_put _ _ _ _).mp member
  · intro id other
    simp only [putDesk, Entries.lookup_put, other, if_false]
  · intro found known
    simp only [putDesk, Entries.lookup_put, if_true, Option.some.injEq] at known
    exact known ▸ held

theorem atDesk_each {α : Type} {given : Option Text}
    {work : Desk → Except EditError α × List Announcement × Desk} (steady : Steady c P)
    (each : w.Each P) (leads : ∀ d, Desk.Leads P d (work d).2.2) :
    (w.atDesk given work).workspace.Each P := by
  cases found : w.script given with
  | error e =>
      rw [atDesk_missing found]
      exact each
  | ok s =>
      rw [atDesk_eq found]
      have here := script_found found
      have led := leads (w.desk s)
      refine putDesk_each (s := s) each ?_ (led.keeps (desk_holds steady each here))
      rw [led.id, desk_script]
      exact here

theorem select_each {given : Option Text} {change : Desk → Except GraphError Desk}
    (steady : Steady c P) (each : w.Each P) (leads : ∀ d, Desk.Leads P d (orSame d id (change d))) :
    (w.select given change).workspace.Each P := by
  refine atDesk_each steady each fun d => ?_
  have led := leads d
  cases changed : change d with
  | error e => exact .refl
  | ok e =>
      rw [changed] at led
      exact led

theorem onScript_each {α : Type} {given : Option Text} {work : Script → Outcome α}
    (each : w.Each P)
    (worked : ∀ s, w.project.script? s.id = some s → (work s).workspace.Each P) :
    (w.onScript given work).workspace.Each P := by
  unfold onScript
  cases found : w.script given with
  | error e => exact each
  | ok s => exact worked s (script_found found)

theorem Each.added (each : w.Each P)
    (scripts : v.project.scripts = w.project.scripts ++ [s]) (editors : v.editors = w.editors) :
    v.Each P := by
  refine ⟨fun id member => ?_, fun id u found there known => ?_⟩
  · rw [scripts, List.map_append]
    exact List.mem_append_left _ (each.scripts id (editors ▸ member))
  · rw [editors] at known
    obtain ⟨old, present, named⟩ :=
      List.mem_map.mp (each.scripts id (Entries.names_of_lookup known))
    have looked : (w.project.script? id).isSome := by
      simp only [Project.script?, List.find?_isSome, decide_eq_true_eq]
      exact ⟨old, present, named⟩
    obtain ⟨first, there'⟩ := Option.isSome_iff_exists.mp looked
    rw [Project.script?, scripts, List.find?_append, ← Project.script?, there', Option.some_or] at there
    cases there
    exact each.holds id u found there' known

theorem Each.removed {id : Text} (each : w.Each P)
    (scripts : v.project.scripts = w.project.scripts.filter (·.id ≠ id))
    (editors : v.editors = w.editors.filter (·.1 ≠ id)) : v.Each P := by
  have kept {other : Text} {found : OpenEditor} (known : v.editors.lookup other = some found) :
      other ≠ id ∧ w.editors.lookup other = some found := by
    rw [editors, Entries.lookup_without] at known
    split at known
    · cases known
    · exact ⟨‹_›, known⟩
  refine ⟨fun other member => ?_, fun other u found there known => ?_⟩
  · rw [editors] at member
    obtain ⟨entry, listed, rfl⟩ := List.mem_map.mp member
    obtain ⟨listed, apart⟩ := List.mem_filter.mp listed
    obtain ⟨u, present, named⟩ := List.mem_map.mp (each.scripts _ (List.mem_map_of_mem listed))
    rw [scripts, ← named]
    refine List.mem_map_of_mem (List.mem_filter.mpr ⟨present, ?_⟩)
    rw [named]
    exact apart
  · obtain ⟨apart, known⟩ := kept known
    refine each.holds other u found ?_ known
    have alone : (fun u : Script => decide (decide (u.id ≠ id) = true ∧ decide (u.id = other) = true)) =
        fun u => decide (u.id = other) := by
      funext u
      grind
    rwa [Project.script?, scripts, List.find?_filter, alone] at there

end

end Workspace

end NodeScript
