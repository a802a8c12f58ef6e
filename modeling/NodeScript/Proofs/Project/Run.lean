import NodeScript.Proofs.Editor.Step
import NodeScript.Proofs.Project.Rules
import NodeScript.Proofs.Script.Audit

/-!
Runs. A studio is a project with the supply of its ids; its steps are the changes of the project, of
one of its scripts, and the steps of an editor, in any state, at one of its scripts. Every step keeps
a sound project sound, so every run from the empty project does.
-/
namespace NodeScript

/-- Changes of one script. -/
inductive ScriptStep where
  | addNode (draft : NodeDraft)
  | updateNode (id : Option Text) (change : NodeChange)
  | renameNode (id : Option Text) (label : Text)
  | deleteNode (id : Option Text)
  | deleteNodes (ids : List (Option Text))
  | connect (link : LinkDraft)
  | deleteConnection (id : Option Text)
  | addVariable (draft : VariableDraft)
  | deleteVariable (id : Option Text)
  | setName (name : Text)

/-- Changes of a project. An editor may have been opened long before its step, and other editors
may have changed its script since: it may hold any selection, drag or search. -/
inductive StudioStep where
  | createScript (name : Text) (description : Option Text)
  | duplicateScript (id name : Option Text)
  | renameScript (id : Option Text) (name : Text)
  | deleteScript (id : Option Text)
  | setCurrentScript (id : Option Text)
  | onScript (script : Text) (step : ScriptStep)
  | onEditor (script : Text) (editor : Editor) (recents : Recents) (step : EditorStep)

structure Studio where
  project : Project := {}
  ids : IdSupply := {}

namespace Script

variable {c : Catalog} {ids : IdSupply}

def after (c : Catalog) (s : Script) (ids : IdSupply) : ScriptStep → Script × IdSupply
  | .addNode draft => orSame (s, ids) (·.2) (s.addNode c draft ids)
  | .updateNode id change => orSame (s, ids) (·.2, ids) (s.updateNode id change)
  | .renameNode id label => orSame (s, ids) (·.2, ids) (s.renameNode id label)
  | .deleteNode id => orSame (s, ids) (·.2, ids) (s.deleteNode c id)
  | .deleteNodes given => orSame (s, ids) (·.2, ids) (s.deleteNodes c given)
  | .connect link => orSame (s, ids) (·.2) (s.connect c link ids)
  | .deleteConnection id => orSame (s, ids) (·.2, ids) (s.deleteConnection c id)
  | .addVariable draft => (s.addVariable draft ids).2
  | .deleteVariable id => orSame (s, ids) (·, ids) (s.deleteVariable id)
  | .setName name => orSame (s, ids) (·, ids) (s.setName name)

theorem orSame_kept {ε α : Type} {s : Script} {pick : α → Script × IdSupply} {result : Except ε α}
    (ok : ∀ a, result = .ok a → Kept c ids (pick a).2 s (pick a).1) :
    Kept c ids (orSame (s, ids) pick result).2 s (orSame (s, ids) pick result).1 :=
  orSame_of (motive := fun r : Script × IdSupply => Kept c ids r.2 s r.1) Kept.refl ok

theorem after_kept (step : ScriptStep) (s : Script) :
    Kept c ids (s.after c ids step).2 s (s.after c ids step).1 := by
  cases step with
  | addNode draft => exact orSame_kept fun _ ok => addNode_kept ok
  | updateNode id change => exact orSame_kept fun _ ok => updateNode_kept ok
  | renameNode id label => exact orSame_kept fun _ ok => renameNode_kept ok
  | deleteNode id => exact orSame_kept fun _ ok => deleteNode_kept ok
  | deleteNodes given => exact orSame_kept fun _ ok => deleteNodes_kept ok
  | connect link => exact orSame_kept fun _ ok => connect_kept ok
  | deleteConnection id => exact orSame_kept fun _ ok => deleteConnection_kept ok
  | addVariable draft => exact addVariable_kept draft
  | deleteVariable id => exact orSame_kept fun _ ok => deleteVariable_kept ok
  | setName name => exact orSame_kept fun _ ok => setName_kept ok

end Script

namespace Studio

variable {c : Catalog} {st : Studio}

def within (st : Studio) (script : Text) (change : Script → Script × IdSupply) : Studio :=
  match st.project.script? script with
  | none => st
  | some s => { project := st.project.replaceScript s.id (change s).1, ids := (change s).2 }

def after (c : Catalog) (st : Studio) : StudioStep → Studio
  | .createScript name description =>
    let (_, project, ids) := st.project.createScript name description st.ids
    { project, ids }
  | .duplicateScript id name =>
    orSame st (fun r => { project := r.2.1, ids := r.2.2 }) (st.project.duplicateScript id name st.ids)
  | .renameScript id name =>
    orSame st (fun r => { st with project := r.2 }) (st.project.renameScript id name)
  | .deleteScript id => orSame st (fun r => { st with project := r.2 }) (st.project.deleteScript id)
  | .setCurrentScript id =>
    orSame st (fun r => { st with project := r.2 }) (st.project.setCurrentScript id)
  | .onScript script step => st.within script fun s => s.after c st.ids step
  | .onEditor script editor recents step =>
    st.within script fun s =>
      let d := Desk.after c { script := s, editor, recents, ids := st.ids } step
      (d.script, d.ids)

def run (c : Catalog) (st : Studio) (steps : List StudioStep) : Studio := steps.foldl (after c) st

def Sound (c : Catalog) (st : Studio) : Prop := st.project.Sound c st.ids

theorem within_sound {script : Text} {change : Script → Script × IdSupply}
    (kept : ∀ s, Script.Kept c st.ids (change s).2 s (change s).1) (sound : st.Sound c) :
    (st.within script change).Sound c := by
  unfold within
  cases found : st.project.script? script with
  | none => exact sound
  | some s => exact Project.Sound.replaceScript (Project.script?_mem found).1 (kept s) sound

theorem after_sound (step : StudioStep) (sound : st.Sound c) : (st.after c step).Sound c := by
  cases step with
  | createScript name description => exact Project.createScript_sound name description sound
  | duplicateScript id name =>
      exact orSame_of sound fun _ ok => Project.duplicateScript_sound ok sound
  | renameScript id name => exact orSame_of sound fun _ ok => Project.renameScript_sound ok sound
  | deleteScript id => exact orSame_of sound fun _ ok => Project.deleteScript_sound ok sound
  | setCurrentScript id =>
      exact orSame_of sound fun _ ok => Project.setCurrentScript_sound ok sound
  | onScript script step => exact within_sound (fun s => s.after_kept step) sound
  | onEditor script editor recents step =>
      exact within_sound (fun s => Desk.after_kept step { script := s, editor, recents, ids := st.ids })
        sound

theorem run_sound (steps : List StudioStep) (sound : st.Sound c) : (st.run c steps).Sound c := by
  induction steps generalizing st with
  | nil => exact sound
  | cons step rest ih => exact ih (after_sound step sound)

theorem empty_sound (ids : IdSupply) : Sound c { ids } where
  distinct := List.nodup_nil
  spent := by simp
  current := by simp
  scripts := by simp

/-- Whatever is done from the empty project on keeps every rule of projects and scripts, so that
the audit never has anything to report. -/
theorem run_wellFormed (c : Catalog) (ids : IdSupply) (steps : List StudioStep) :
    let p := (run c { ids } steps).project
    (p.scripts.map Script.id).Nodup ∧
      (∀ id, p.currentScript = some id → id ∈ p.scripts.map Script.id) ∧
      ∀ s ∈ p.scripts, s.WellFormed c ∧ s.audit c = [] := by
  have sound : (run c { ids } steps).Sound c := run_sound steps (empty_sound ids)
  refine ⟨sound.distinct, sound.current, ?_⟩
  intro s member
  have formed := (sound.scripts s member).formed
  exact ⟨formed, Script.audit_eq_nil.mpr formed.clean⟩

end Studio

end NodeScript
