import NodeScript.Proofs.Project.Edit
import NodeScript.Proofs.Script.Edit

namespace NodeScript

namespace Project

variable {c : Catalog} {ids more : IdSupply} {p : Project} {s t : Script}

/-- Distinct spent ids, a current script that is there if any is named, and sound scripts. -/
structure Sound (c : Catalog) (ids : IdSupply) (p : Project) : Prop where
  distinct : (p.scripts.map Script.id).Nodup
  spent : ∀ id ∈ p.scripts.map Script.id, ids.Spent id
  current : ∀ id, p.currentScript = some id → id ∈ p.scripts.map Script.id
  scripts : ∀ s ∈ p.scripts, s.Sound c ids

theorem script?_mem {id : Text} (found : p.script? id = some s) : s ∈ p.scripts ∧ s.id = id := by
  have named := List.find?_some found
  exact ⟨List.mem_of_find?_eq_some found, by simpa using named⟩

theorem requireScript_iff {id : Option Text} : p.requireScript id = .ok s ↔ id.bind p.script? = some s := by
  unfold requireScript
  cases id.bind p.script? <;> simp

theorem requireScript_ok {id : Option Text} (ok : p.requireScript id = .ok s) : s ∈ p.scripts := by
  obtain ⟨given, _, looked⟩ := Option.bind_eq_some_iff.mp (requireScript_iff.mp ok)
  exact (script?_mem looked).1

theorem replaceFirst_ids {id : Text} (named : t.id = id) (scripts : List Script) :
    (replaceFirst id t scripts).map Script.id = scripts.map Script.id := by
  induction scripts with
  | nil => rfl
  | cons u rest ih =>
      unfold replaceFirst
      split
      · rename_i same
        simp [named, same]
      · simp [ih]

theorem mem_replaceFirst {id : Text} {u : Script} {scripts : List Script}
    (member : u ∈ replaceFirst id t scripts) : u = t ∨ u ∈ scripts := by
  induction scripts with
  | nil => cases member
  | cons v rest ih =>
      unfold replaceFirst at member
      split at member
      · rcases List.mem_cons.mp member with same | later
        · exact Or.inl same
        · exact Or.inr (List.mem_cons_of_mem _ later)
      · rcases List.mem_cons.mp member with rfl | later
        · exact Or.inr List.mem_cons_self
        · exact (ih later).imp_right (List.mem_cons_of_mem _)

theorem Sound.replaceScript (member : s ∈ p.scripts) (kept : Script.Kept c ids more s t)
    (sound : p.Sound c ids) : (p.replaceScript s.id t).Sound c more := by
  have names : (p.replaceScript s.id t).scripts.map Script.id = p.scripts.map Script.id :=
    replaceFirst_ids kept.id p.scripts
  refine ⟨names ▸ sound.distinct, ?_, names ▸ sound.current, ?_⟩
  · intro id named
    exact (sound.spent id (names ▸ named)).mono kept.later
  · intro u present
    rcases mem_replaceFirst present with rfl | old
    · exact kept.sound (sound.scripts s member)
    · exact (sound.scripts u old).mono kept.later

theorem Sound.add {current : Option Text} (new : IdSupply.New ids more [s.id]) (added : s.Sound c more)
    (named : current = p.currentScript ∨ current = some s.id) (sound : p.Sound c ids) :
    Sound c more { scripts := p.scripts ++ [s], currentScript := current } := by
  refine ⟨?_, ?_, ?_, ?_⟩
  · rw [List.map_append]
    exact new.append sound.distinct sound.spent
  · rw [List.map_append]
    exact new.spent_append sound.spent
  · rintro id rfl
    rw [List.map_append, List.mem_append]
    rcases named with old | same
    · exact Or.inl (sound.current id old.symm)
    · exact Or.inr (by simpa using same)
  · intro u member
    rcases List.mem_append.mp member with old | same
    · exact (sound.scripts u old).mono new.later
    · exact List.mem_singleton.mp same ▸ added

theorem createScript_sound (name : Text) (description : Option Text) (sound : p.Sound c ids) :
    (p.createScript name description ids).2.1.Sound c (p.createScript name description ids).2.2 := by
  refine sound.add (IdSupply.new_draw ids) (empty_sound rfl rfl) ?_
  cases p.currentScript with
  | none => exact Or.inr rfl
  | some id => exact Or.inl rfl

theorem duplicateScript_sound {id name : Option Text} {q : Project}
    (ok : p.duplicateScript id name ids = .ok (s, q, more)) (sound : p.Sound c ids) : q.Sound c more := by
  obtain ⟨source, found, ok⟩ := ok_of_bind ok
  cases ok
  have formed := (sound.scripts source (requireScript_ok found)).formed
  exact sound.add (copyScript_new name source ids) (copyScript_sound name formed) (Or.inl rfl)

theorem renameScript_ok {id : Option Text} {name : Text} {q : Project}
    (ok : p.renameScript id name = .ok (s, q)) : ∃ source, p.requireScript id = .ok source ∧
      source.setName name = .ok s ∧ q = p.replaceScript s.id s := by
  obtain ⟨source, found, ok⟩ := ok_of_bind ok
  obtain ⟨renamed, named, ok⟩ := ok_of_bind ok
  cases ok
  exact ⟨source, ok_of_mapError found, named, rfl⟩

theorem renameScript_sound {id : Option Text} {name : Text} {q : Project}
    (ok : p.renameScript id name = .ok (s, q)) (sound : p.Sound c ids) : q.Sound c ids := by
  obtain ⟨source, found, named, rfl⟩ := renameScript_ok ok
  have kept : Script.Kept c ids ids source s := Script.setName_kept named
  rw [kept.id]
  exact sound.replaceScript (requireScript_ok found) kept

theorem deleteScript_sound {id : Option Text} {q : Project} (ok : p.deleteScript id = .ok (s, q))
    (sound : p.Sound c ids) : q.Sound c ids := by
  obtain ⟨gone, _, ok⟩ := ok_of_bind ok
  cases ok
  have fewer : (p.scripts.filter fun u => u.id ≠ s.id).Sublist p.scripts := List.filter_sublist
  refine ⟨sound.distinct.sublist (fewer.map _), ?_, ?_, ?_⟩
  · exact fun id member => sound.spent id ((fewer.map _).subset member)
  · intro id named
    dsimp only at named
    split at named
    · cases named
    · rename_i other
      obtain ⟨u, present, same⟩ := List.mem_map.mp (sound.current id named)
      refine List.mem_map.mpr ⟨u, List.mem_filter.mpr ⟨present, ?_⟩, same⟩
      simp only [decide_eq_true_eq]
      intro equal
      exact other (named.trans (congrArg some (same.symm.trans equal)))
  · exact fun u member => sound.scripts u (fewer.subset member)

theorem setCurrentScript_sound {id : Option Text} {found : Option Script} {q : Project}
    (ok : p.setCurrentScript id = .ok (found, q)) (sound : p.Sound c ids) : q.Sound c ids := by
  unfold setCurrentScript at ok
  split at ok
  · cases ok
    exact { sound with current := by simp }
  · obtain ⟨s, looked, ok⟩ := ok_of_bind ok
    cases ok
    refine { sound with current := ?_ }
    rintro _ ⟨⟩
    exact List.mem_map_of_mem (requireScript_ok looked)

end Project

end NodeScript
