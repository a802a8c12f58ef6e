import Mathlib.Data.List.Nodup
import NodeScript.IdSupply

namespace NodeScript.IdSupply

def Spent (ids : IdSupply) (id : Text) : Prop := ∀ n, ids.drawn < n → ids.name n ≠ id

instance : LE IdSupply := ⟨fun ids more => more.name = ids.name ∧ ids.drawn ≤ more.drawn⟩

variable {ids more last : IdSupply} {id : Text}

theorem idText_ne {n : Nat} {id : Text} (other : id.letters.head? ≠ some (.char 'i')) :
    idText n ≠ id := by
  rintro rfl
  exact other rfl

theorem spent_of_head {l : List Text} (other : ∀ id ∈ l, id.letters.head? ≠ some (.char 'i')) :
    ∀ id ∈ l, ({} : IdSupply).Spent id :=
  fun id member _ _ => idText_ne (other id member)

theorem le_refl (ids : IdSupply) : ids ≤ ids := ⟨rfl, Nat.le_refl _⟩

theorem le_trans (first : ids ≤ more) (second : more ≤ last) : ids ≤ last :=
  ⟨second.1.trans first.1, Nat.le_trans first.2 second.2⟩

theorem Spent.mono (later : ids ≤ more) (spent : ids.Spent id) : more.Spent id := by
  intro n bound
  rw [later.1]
  exact spent n (Nat.lt_of_le_of_lt later.2 bound)

theorem le_draw (ids : IdSupply) : ids ≤ ids.draw.2 := ⟨rfl, Nat.le_succ _⟩

theorem draw_new (ids : IdSupply) : ¬ ids.Spent ids.draw.1 := by
  intro spent
  exact spent (ids.drawn + 1) (Nat.lt_succ_self _) rfl

theorem draw_spent (ids : IdSupply) : ids.draw.2.Spent ids.draw.1 := by
  intro n bound same
  have equal := ids.distinct n (ids.drawn + 1) same
  have above : ids.drawn + 1 < n := bound
  omega

/-- Ids that were drawn on the way from one supply to the other. -/
structure New (ids more : IdSupply) (l : List Text) : Prop where
  later : ids ≤ more
  distinct : l.Nodup
  fresh : ∀ id ∈ l, ¬ ids.Spent id
  spent : ∀ id ∈ l, more.Spent id

theorem new_nil (later : ids ≤ more) : New ids more [] :=
  ⟨later, List.nodup_nil, by simp, by simp⟩

theorem new_draw (ids : IdSupply) : New ids ids.draw.2 [ids.draw.1] where
  later := le_draw ids
  distinct := List.nodup_singleton _
  fresh := by simpa using draw_new ids
  spent := by simpa using draw_spent ids

theorem new_drawn (named : id = ids.draw.1) : New ids ids.draw.2 [id] := named ▸ new_draw ids

theorem New.widen {first : IdSupply} {l : List Text} (before : first ≤ ids) (new : New ids more l)
    (after : more ≤ last) : New first last l where
  later := le_trans before (le_trans new.later after)
  distinct := new.distinct
  fresh := fun id member spent => new.fresh id member (spent.mono before)
  spent := fun id member => (new.spent id member).mono after

theorem New.sublist {l fewer : List Text} (new : New ids more l) (sub : fewer.Sublist l) :
    New ids more fewer where
  later := new.later
  distinct := new.distinct.sublist sub
  fresh := fun id member => new.fresh id (sub.subset member)
  spent := fun id member => new.spent id (sub.subset member)

theorem New.append {old l : List Text} (new : New ids more l) (distinct : old.Nodup)
    (spent : ∀ id ∈ old, ids.Spent id) : (old ++ l).Nodup := by
  refine List.nodup_append.mpr ⟨distinct, new.distinct, ?_⟩
  rintro id member id' member' rfl
  exact new.fresh id member' (spent id member)

theorem New.spent_append {old l : List Text} (new : New ids more l)
    (spent : ∀ id ∈ old, ids.Spent id) : ∀ id ∈ old ++ l, more.Spent id := by
  intro id member
  rcases List.mem_append.mp member with member | member
  · exact (spent id member).mono new.later
  · exact new.spent id member

theorem New.then {l rest : List Text} (new : New ids more l) (later : New more last rest) :
    New ids last (l ++ rest) where
  later := le_trans new.later later.later
  distinct := later.append new.distinct new.spent
  fresh := by
    intro id member
    rcases List.mem_append.mp member with first | second
    · exact new.fresh id first
    · exact fun spent => later.fresh id second (spent.mono new.later)
  spent := later.spent_append new.spent

theorem New.not_mem {old l : List Text} (new : New ids more l) (spent : ∀ id ∈ old, ids.Spent id) :
    ∀ id ∈ l, id ∉ old :=
  fun id member listed => new.fresh id member (spent id listed)

theorem drawFor_new {α : Type} (ids : IdSupply) (l : List α) :
    New ids (ids.drawFor l).2 ((ids.drawFor l).1.map Prod.snd) := by
  induction l generalizing ids with
  | nil => exact new_nil (le_refl ids)
  | cons a rest ih =>
      have tail := ih ids.draw.2
      refine ⟨le_trans (le_draw ids) tail.later, ?_, ?_, ?_⟩
      · refine List.nodup_cons.mpr ⟨?_, tail.distinct⟩
        intro again
        exact tail.fresh _ again (draw_spent ids)
      · intro id member
        rcases List.mem_cons.mp member with rfl | later
        · exact draw_new ids
        · exact fun spent => tail.fresh id later (spent.mono (le_draw ids))
      · intro id member
        rcases List.mem_cons.mp member with rfl | later
        · exact (draw_spent ids).mono tail.later
        · exact tail.spent id later

theorem drawFor_items {α : Type} (ids : IdSupply) (l : List α) :
    (ids.drawFor l).1.map Prod.fst = l := by
  induction l generalizing ids with
  | nil => rfl
  | cons a rest ih => exact congrArg (a :: ·) (ih ids.draw.2)

end NodeScript.IdSupply
