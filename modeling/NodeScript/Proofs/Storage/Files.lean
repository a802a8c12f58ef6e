import NodeScript.Proofs.Entries
import NodeScript.Storage.Files

namespace NodeScript.Files

variable {f g : Files} {place target q : Place} {name step : Bytes} {text : String}

/-- Every directory found in some files is found in the others. -/
def Keeps (f g : Files) : Prop :=
  ∀ place name found, f.entry place name = .directory found → g.entry place name = .directory found

theorem entry_eq (named : isName name = true) : f.entry place name =
    match f.texts.lookup (place ++ [name]) with
    | some text => .file (place ++ [name]) text
    | none => if f.isDirectory (place ++ [name]) = true then .directory (place ++ [name])
      else .vacant (place ++ [name]) := by
  rw [entry]
  exact if_neg (by simp [named])

theorem entry_named (found : f.entry place name ≠ .nowhere) : isName name = true := by
  cases named : isName name with
  | true => rfl
  | false => exact absurd (if_pos (by simp [named])) found

theorem entry_eq_directory : f.entry place name = .directory q ↔
    isName name = true ∧ f.texts.lookup (place ++ [name]) = none ∧
      f.isDirectory (place ++ [name]) = true ∧ place ++ [name] = q := by
  constructor
  · intro found
    have named := entry_named (by rw [found]; nofun)
    rw [entry_eq named] at found
    split at found
    · contradiction
    · rename_i none
      split at found
      · exact ⟨named, none, ‹_›, Spot.directory.inj found⟩
      · contradiction
  · rintro ⟨named, none, there, rfl⟩
    rw [entry_eq named, none]
    exact if_pos there

theorem entry_vacant (found : f.entry place name = .vacant q) :
    isName name = true ∧ f.texts.lookup (place ++ [name]) = none ∧
      f.isDirectory (place ++ [name]) = false ∧ place ++ [name] = q := by
  have named := entry_named (by rw [found]; nofun)
  rw [entry_eq named] at found
  split at found
  · contradiction
  · rename_i none
    split at found
    · contradiction
    · rename_i missing
      exact ⟨named, none, by simpa using missing, Spot.vacant.inj found⟩

theorem entry_file (found : f.entry place name = .file q text) :
    isName name = true ∧ f.texts.lookup (place ++ [name]) = some text ∧ place ++ [name] = q := by
  have named := entry_named (by rw [found]; nofun)
  rw [entry_eq named] at found
  split at found
  · rename_i there
    obtain ⟨same, rfl⟩ := Spot.file.inj found
    exact ⟨named, there, same⟩
  · split at found <;> contradiction

theorem Keeps.of_grown (texts : g.texts = f.texts) (more : f.directories ⊆ g.directories) : Keeps f g := by
  intro place name found here
  rw [entry_eq_directory] at here ⊢
  obtain ⟨named, free, there, same⟩ := here
  refine ⟨named, texts ▸ free, ?_, same⟩
  rw [isDirectory, Bool.or_eq_true, List.contains_iff_mem] at there ⊢
  exact there.imp_right (@more _)

theorem follow_rest (rest : isRest step = true) (steps : List Bytes) :
    f.follow place (step :: steps) = f.follow place steps := if_pos rest

theorem follow_up (steps : List Bytes) : f.follow place (stepUp :: steps) = f.follow (parent place) steps :=
  rfl

theorem follow_name (rest : isRest step = false) (up : step ≠ stepUp) (steps : List Bytes) :
    f.follow place (step :: steps) = match f.entry place step with
      | .directory place => f.follow place steps
      | found => if steps = [] then found else .nowhere := by
  rw [Files.follow, if_neg (by simp [rest])]
  refine (if_neg up).trans ?_
  cases f.entry place step <;> rfl

theorem follow_name_directory (rest : isRest step = false) (up : step ≠ stepUp) {steps : List Bytes} :
    f.follow place (step :: steps) = .directory q ↔
      ∃ inner, f.entry place step = .directory inner ∧ f.follow inner steps = .directory q := by
  rw [follow_name rest up]
  cases f.entry place step with
  | directory inner => simp
  | file inner text | vacant inner | nowhere =>
    dsimp only
    split <;> simp

theorem Keeps.follow {steps : List Bytes} (keeps : Keeps f g) (found : f.follow place steps = .directory q) :
    g.follow place steps = .directory q := by
  induction steps generalizing place with
  | nil => exact found
  | cons step steps ih =>
    by_cases rest : isRest step = true
    · rw [follow_rest rest] at found ⊢
      exact ih found
    · by_cases up : step = stepUp
      · rw [up, follow_up] at found ⊢
        exact ih found
      · rw [follow_name_directory (by simpa using rest) up] at found ⊢
        obtain ⟨inner, here, found⟩ := found
        exact ⟨inner, keeps _ _ _ here, ih found⟩

theorem follow_append {steps more : List Bytes} (found : f.follow place steps = .directory q) :
    f.follow place (steps ++ more) = f.follow q more := by
  induction steps generalizing place with
  | nil =>
    obtain rfl : place = q := by simpa [Files.follow] using found
    rfl
  | cons step steps ih =>
    rw [List.cons_append]
    by_cases rest : isRest step = true
    · rw [follow_rest rest] at found ⊢
      exact ih found
    · by_cases up : step = stepUp
      · rw [up, follow_up] at found ⊢
        exact ih found
      · have named : isRest step = false := by simpa using rest
        obtain ⟨inner, here, found⟩ := (follow_name_directory named up).mp found
        rw [follow_name named up, here]
        exact ih found

theorem makeWay_grown (steps : List Bytes) (place : Place) (f : Files) :
    (makeWay place steps f).2.texts = f.texts ∧ f.directories ⊆ (makeWay place steps f).2.directories := by
  induction steps generalizing place f with
  | nil => exact ⟨rfl, List.Subset.refl _⟩
  | cons step steps ih =>
    unfold makeWay
    split
    · exact ih place f
    · split
      · exact ih (parent place) f
      · split
        · exact ih _ f
        · obtain ⟨texts, more⟩ := ih _ _
          exact ⟨texts, List.Subset.trans (List.subset_cons_self _ _) more⟩
        · exact ⟨rfl, List.Subset.refl _⟩

theorem follow_makeWay {steps : List Bytes} (made : (makeWay place steps f).1 = some q) :
    (makeWay place steps f).2.follow place steps = .directory q := by
  induction steps generalizing place f with
  | nil => exact congrArg Spot.directory (Option.some.inj made)
  | cons step steps ih =>
    unfold makeWay at made ⊢
    by_cases rest : isRest step = true
    · rw [if_pos rest] at made ⊢
      rw [follow_rest rest]
      exact ih made
    · rw [if_neg rest] at made ⊢
      by_cases up : step = stepUp
      · rw [if_pos up] at made ⊢
        rw [up, follow_up]
        exact ih made
      · rw [if_neg up] at made ⊢
        cases here : f.entry place step with
        | directory inner =>
          rw [here] at made
          dsimp only at made ⊢
          obtain ⟨texts, more⟩ := makeWay_grown steps inner f
          have found := Keeps.of_grown texts more _ _ _ here
          rw [follow_name (by simpa using rest) up, found]
          exact ih made
        | vacant inner =>
          rw [here] at made
          dsimp only at made ⊢
          obtain ⟨texts, more⟩ := makeWay_grown steps inner { f with directories := inner :: f.directories }
          -- The directory is made here and is found when the same steps are gone again.
          have fresh : Files.entry { f with directories := inner :: f.directories } place step =
              .directory inner := by
            obtain ⟨named, none, -, same⟩ := entry_vacant here
            rw [entry_eq_directory]
            exact ⟨named, none, by simp [isDirectory, same], same⟩
          have found := Keeps.of_grown texts more _ _ _ fresh
          rw [follow_name (by simpa using rest) up, found]
          exact ih made
        | file inner text | nowhere =>
          rw [here] at made
          contradiction

theorem Keeps.of_put (free : f.texts.lookup q ≠ none ∨ f.isDirectory q = false) (text : String) :
    Keeps f (f.put q text) := by
  intro place name found here
  rw [entry_eq_directory] at here ⊢
  obtain ⟨named, none, there, same⟩ := here
  have other : place ++ [name] ≠ q := by
    rintro rfl
    rcases free with some | missing
    · exact some none
    · simp [there] at missing
  have texts : (f.put q text).texts = (q, text) :: f.texts.filter (·.1 ≠ q) := rfl
  refine ⟨named, ?_, there, same⟩
  rw [texts, Entries.lookup_cons, if_neg other, Entries.lookup_without, if_neg other, none]

theorem follow_put {last : Bytes}
    (found : (∃ old, f.follow place [last] = .file q old) ∨ f.follow place [last] = .vacant q) (text : String) :
    Keeps f (f.put q text) ∧ (f.put q text).follow place [last] = .file q text := by
  have plain : isRest last = false := by
    refine Bool.eq_false_iff.mpr fun rest => ?_
    rw [follow_rest rest] at found
    rcases found with ⟨_, found⟩ | found <;> contradiction
  have inside : last ≠ stepUp := by
    rintro rfl
    rw [follow_up] at found
    rcases found with ⟨_, found⟩ | found <;> contradiction
  have single (g : Files) : g.follow place [last] = g.entry place last := by
    rw [follow_name plain inside]
    cases g.entry place last <;> rfl
  simp only [single] at found ⊢
  have place_ : isName last = true ∧ place ++ [last] = q ∧
      (f.texts.lookup q ≠ none ∨ f.isDirectory q = false) := by
    rcases found with ⟨old, found⟩ | found
    · obtain ⟨named, there, rfl⟩ := entry_file found
      exact ⟨named, rfl, .inl (by simp [there])⟩
    · obtain ⟨named, none, missing, rfl⟩ := entry_vacant found
      exact ⟨named, rfl, .inr missing⟩
  obtain ⟨named, rfl, free⟩ := place_
  refine ⟨Keeps.of_put free text, ?_⟩
  have texts : (f.put (place ++ [last]) text).texts =
    (place ++ [last], text) :: f.texts.filter (·.1 ≠ place ++ [last]) := rfl
  rw [entry_eq named, texts, Entries.lookup_cons, if_pos rfl]

/-- A text that was written is found under the path it was written to. -/
theorem text?_write {path : Text} (written : (f.write path text).1 = true) :
    (f.write path text).2.text? path = some text := by
  unfold write at written ⊢
  by_cases long : isTooLong path = true
  · simp [long] at written
  · rw [if_neg long] at written ⊢
    have used : steps path ≠ [] := List.splitOn_ne_nil slash path.pathBytes
    have ends := List.getLast?_eq_some_getLast used
    have whole := (List.dropLast_concat_getLast used).symm
    generalize (steps path).getLast used = last at ends whole
    cases made : makeWay [] (steps path).dropLast f with
    | mk way g =>
      rw [made] at written
      cases way with
      | none => contradiction
      | some directory =>
        have reached : g.follow [] (steps path).dropLast = .directory directory := by
          have way : (makeWay [] (steps path).dropLast f).1 = some directory := congrArg Prod.fst made
          have followed := follow_makeWay way
          rwa [made] at followed
        rw [ends, Option.toList_some] at written ⊢
        have result (q : Place) (found : (∃ old, g.follow directory [last] = .file q old) ∨
            g.follow directory [last] = .vacant q) : (g.put q text).text? path = some text := by
          obtain ⟨keeps, here⟩ := follow_put found text
          have spotted : (g.put q text).spot path = .file q text := by
            rw [spot, if_neg long, whole, follow_append (keeps.follow reached), here]
          simp only [text?, spotted]
        dsimp only at written ⊢
        split at written
        · rename_i q old found
          exact result q (.inl ⟨old, found⟩)
        · rename_i q found
          exact result q (.inr found)
        · contradiction

end NodeScript.Files
