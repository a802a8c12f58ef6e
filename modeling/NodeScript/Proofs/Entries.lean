import NodeScript.Entries

namespace NodeScript.Entries

variable {α : Type}

section

variable {κ : Type} [DecidableEq κ] [BEq κ] [LawfulBEq κ]

theorem lookup_cons (entry : κ × α) (rest : List (κ × α)) (name : κ) :
    (entry :: rest).lookup name = if name = entry.1 then some entry.2 else rest.lookup name := by
  rw [List.lookup_cons]
  by_cases same : name = entry.1
  · simp [same]
  · simp [beq_false_of_ne same, same]

theorem lookup_without (entries : List (κ × α)) (name other : κ) :
    (entries.filter (·.1 ≠ name)).lookup other =
      if other = name then none else entries.lookup other := by
  induction entries with
  | nil => simp
  | cons entry rest ih =>
      by_cases here : entry.1 = name
      · rw [List.filter_cons_of_neg (by simpa using here), ih, lookup_cons, here]
        split <;> rfl
      · rw [List.filter_cons_of_pos (by simpa using here), lookup_cons, lookup_cons, ih]
        grind

end

theorem lookup_put (entries : List (Text × α)) (name other : Text) (value : α) :
    (put entries name value).lookup other =
      if other = name then some value else entries.lookup other := by
  induction entries with
  | nil => exact lookup_cons (name, value) [] other
  | cons entry rest ih =>
      unfold put
      by_cases here : entry.1 = name
      · rw [if_pos here, lookup_cons, lookup_cons, here]
        by_cases same : other = name <;> simp [same]
      · rw [if_neg here, lookup_cons, lookup_cons, ih]
        by_cases this : other = entry.1
        · simp [this, here]
        · simp [this]

theorem names_put (entries : List (Text × α)) (name : Text) (value : α) (other : Text) :
    other ∈ (put entries name value).map Prod.fst ↔ other ∈ entries.map Prod.fst ∨ other = name := by
  induction entries with
  | nil => simp [put]
  | cons entry rest ih =>
      unfold put
      split
      · rename_i here
        simp only [List.map_cons, List.mem_cons, here]
        grind
      · simp only [List.map_cons, List.mem_cons, ih, or_assoc]

theorem names_of_lookup {entries : List (Text × α)} {name : Text} {value : α}
    (found : entries.lookup name = some value) : name ∈ entries.map Prod.fst := by
  obtain ⟨before, after, split, _⟩ := List.lookup_eq_some_iff.mp found
  rw [split]
  simp

theorem put_new {entries : List (Text × α)} {name : Text} (value : α)
    (new : name ∉ entries.map Prod.fst) : put entries name value = entries ++ [(name, value)] := by
  induction entries with
  | nil => rfl
  | cons entry rest ih =>
      simp only [List.map_cons, List.mem_cons, not_or] at new
      unfold put
      rw [if_neg (Ne.symm new.1), ih new.2, List.cons_append]

theorem mem_put {entries : List (Text × α)} {entry : Text × α} {name : Text} {value : α}
    (here : entry ∈ put entries name value) : entry = (name, value) ∨ entry ∈ entries := by
  induction entries with
  | nil => exact .inl (List.mem_singleton.mp here)
  | cons first rest ih =>
    unfold put at here
    split at here
    · rename_i same
      rcases List.mem_cons.mp here with rfl | later
      · exact .inl (by rw [same])
      · exact .inr (List.mem_cons_of_mem _ later)
    · rcases List.mem_cons.mp here with rfl | later
      · exact .inr List.mem_cons_self
      · exact (ih later).imp_right (List.mem_cons_of_mem _)

theorem length_put (entries : List (Text × α)) (name : Text) (value : α) :
    (put entries name value).length =
      if name ∈ entries.map Prod.fst then entries.length else entries.length + 1 := by
  induction entries with
  | nil => rfl
  | cons entry rest ih =>
      unfold put
      by_cases here : entry.1 = name
      · simp [here]
      · rw [if_neg here, List.length_cons, ih]
        simp only [List.map_cons, List.mem_cons, Ne.symm here, false_or, List.length_cons]
        split <;> rfl

section

variable {β : Type} (name : Text → Text) (value : α → β)

/-- The entries put after others one by one, under other names and with other values. -/
def putAll (before : List (Text × β)) (entries : List (Text × α)) : List (Text × β) :=
  entries.foldl (fun found entry => put found (name entry.1) (value entry.2)) before

variable {name value}

theorem mem_putAll {before : List (Text × β)} {entries : List (Text × α)} {entry : Text × β}
    (here : entry ∈ putAll name value before entries) :
    entry ∈ before ∨ ∃ other ∈ entries, entry = (name other.1, value other.2) := by
  induction entries generalizing before with
  | nil => exact .inl here
  | cons first rest ih =>
    rcases ih here with earlier | ⟨other, later, rfl⟩
    · rcases mem_put earlier with rfl | there
      · exact .inr ⟨first, List.mem_cons_self, rfl⟩
      · exact .inl there
    · exact .inr ⟨other, List.mem_cons_of_mem _ later, rfl⟩

theorem length_putAll_le (before : List (Text × β)) (entries : List (Text × α)) :
    (putAll name value before entries).length ≤ before.length + entries.length := by
  induction entries generalizing before with
  | nil => exact Nat.le_refl _
  | cons entry rest ih =>
      have others := ih (put before (name entry.1) (value entry.2))
      rw [length_put] at others
      change (putAll name value (put before (name entry.1) (value entry.2)) rest).length ≤ _
      rw [List.length_cons]
      split at others <;> omega

theorem putAll_of_nodup {before : List (Text × β)} {entries : List (Text × α)}
    (distinct : (before.map Prod.fst ++ entries.map fun entry => name entry.1).Nodup) :
    putAll name value before entries = before ++ entries.map fun entry => (name entry.1, value entry.2) := by
  induction entries generalizing before with
  | nil => exact (List.append_nil before).symm
  | cons entry rest ih =>
      have new : name entry.1 ∉ before.map Prod.fst := fun here =>
        (List.nodup_append.mp distinct).2.2 _ here _ List.mem_cons_self rfl
      change putAll name value (put before (name entry.1) (value entry.2)) rest = _
      rw [put_new _ new, ih (by simpa using distinct)]
      simp

theorem nodup_of_length_putAll {before : List (Text × β)} {entries : List (Text × α)}
    (distinct : (before.map Prod.fst).Nodup)
    (full : (putAll name value before entries).length = before.length + entries.length) :
    (before.map Prod.fst ++ entries.map fun entry => name entry.1).Nodup := by
  induction entries generalizing before with
  | nil => simpa using distinct
  | cons entry rest ih =>
      change (putAll name value (put before (name entry.1) (value entry.2)) rest).length = _ at full
      have most : (putAll name value (put before (name entry.1) (value entry.2)) rest).length ≤ _ :=
        length_putAll_le _ _
      rw [length_put, full, List.length_cons] at most
      have new : name entry.1 ∉ before.map Prod.fst := by
        intro here
        rw [if_pos here] at most
        omega
      have apart : ((before ++ [(name entry.1, value entry.2)]).map Prod.fst).Nodup := by
        rw [List.map_append]
        refine List.nodup_append.mpr ⟨distinct, by simp, ?_⟩
        rintro other here same alone rfl
        obtain rfl : other = name entry.1 := List.mem_singleton.mp alone
        exact new here
      have others := ih apart (by simpa [put_new _ new, Nat.add_comm, Nat.add_left_comm] using full)
      simpa using others

variable {entries : List (Text × α)}

theorem putAll_nil (distinct : (entries.map fun entry => name entry.1).Nodup) :
    putAll name value [] entries = entries.map fun entry => (name entry.1, value entry.2) :=
  putAll_of_nodup distinct

theorem nodup_of_full (full : (putAll name value [] entries).length = entries.length) :
    (entries.map fun entry => name entry.1).Nodup := by
  have none : (([] : List (Text × β)).map Prod.fst).Nodup := List.Pairwise.nil
  exact nodup_of_length_putAll none (full.trans (Nat.zero_add _).symm)

end

end NodeScript.Entries
