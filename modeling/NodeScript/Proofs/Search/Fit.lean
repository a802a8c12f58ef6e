import Mathlib.Data.List.Infix
import NodeScript.Proofs.Search.Ranking

/-!
What the score of a text tells. A query fits a text at all if its letters come in order there, it has a high
score if they come together, and the scan for letters in order finds them wherever they are. No score of
letters in order reaches that of a text which starts with the query, whatever the fields weigh.
-/
namespace NodeScript

section

variable {query text : List Letter} {bonus found : Nat}

theorem occursIn_iff : occursIn query text = true ↔ query <:+: text := by
  induction text with
  | nil => simp [occursIn]
  | cons c rest ih => rw [occursIn, Bool.or_eq_true, List.isPrefixOf_iff_prefix, ih, List.infix_cons_iff]

theorem scattered_isSome : (scattered query bonus text).isSome = true ↔ query.Sublist text := by
  induction text generalizing query bonus with
  | nil => cases query <;> simp [scattered]
  | cons c rest ih =>
    cases query with
    | nil => simp [scattered]
    | cons q query =>
      rw [List.cons_sublist_cons']
      by_cases here : c = q
      · have later : (q :: query).Sublist rest → query.Sublist rest :=
          (List.sublist_cons_self q query).trans
        rw [scattered, if_pos here, Option.isSome_map, ih]
        exact ⟨fun fits => .inr ⟨here.symm, fits⟩, fun fits => fits.elim later And.right⟩
      · rw [scattered, if_neg here, ih]
        exact ⟨.inl, fun fits => fits.resolve_right fun both => here both.1.symm⟩

theorem length_le_scattered (enough : scattered query bonus text = some found) : 10 * query.length ≤ found := by
  induction text generalizing query bonus found with
  | nil =>
    cases query with
    | nil => exact Nat.zero_le found
    | cons q query => cases enough
  | cons c rest ih =>
    cases query with
    | nil => exact Nat.zero_le found
    | cons q query =>
      rw [scattered] at enough
      split at enough
      · obtain ⟨later, counted, rfl⟩ := Option.map_eq_some_iff.mp enough
        have := ih counted
        rw [List.length_cons]
        omega
      · exact ih enough

end

section

variable {query text : Text}

theorem fuzzyScore_eq (worded : query ≠ "") : fuzzyScore query text =
    if text.lower.letters = query.lower.letters then 100
    else if query.lower.letters <+: text.lower.letters then 80
    else if query.lower.letters <:+: text.lower.letters then 60
    else min ((scattered query.lower.letters 0 text.lower.letters).getD 0) 39 := by
  simp only [fuzzyScore, if_neg worded, List.isPrefixOf_iff_prefix, occursIn_iff, scatteredMax]

theorem fuzzyScore_of_prefix (worded : query ≠ "") (head : query.lower.letters <+: text.lower.letters) :
    80 ≤ fuzzyScore query text := by
  rw [fuzzyScore_eq worded, if_pos head]
  split <;> omega

theorem fuzzyScore_of_infix (worded : query ≠ "") (inside : query.lower.letters <:+: text.lower.letters) :
    60 ≤ fuzzyScore query text := by
  rw [fuzzyScore_eq worded, if_pos inside]
  split
  · omega
  · split <;> omega

theorem fuzzyScore_of_apart (worded : query ≠ "") (apart : ¬ query.lower.letters <:+: text.lower.letters) :
    fuzzyScore query text = min ((scattered query.lower.letters 0 text.lower.letters).getD 0) 39 := by
  have unequal : text.lower.letters ≠ query.lower.letters := fun same => apart (same ▸ List.infix_rfl)
  have headless : ¬ query.lower.letters <+: text.lower.letters := fun head => apart head.isInfix
  rw [fuzzyScore_eq worded, if_neg unequal, if_neg headless, if_neg apart]

theorem fuzzyScore_apart_cases (worded : query ≠ "") (apart : ¬ query.lower.letters <:+: text.lower.letters) :
    (¬ query.lower.letters.Sublist text.lower.letters ∧ fuzzyScore query text = 0) ∨
      (query.lower.letters.Sublist text.lower.letters ∧
        10 ≤ fuzzyScore query text ∧ fuzzyScore query text ≤ 39) := by
  rw [fuzzyScore_of_apart worded apart, ← @scattered_isSome _ _ 0]
  cases scan : scattered query.lower.letters 0 text.lower.letters with
  | none => simp
  | some found =>
    have lettered : query.lower.letters ≠ [] := fun none => apart (none ▸ List.nil_infix)
    have counted := length_le_scattered scan
    have := List.length_pos_iff.mpr lettered
    rw [Option.getD_some]
    exact .inr ⟨rfl, by omega, by omega⟩

theorem fuzzyScore_pos (worded : query ≠ "") :
    0 < fuzzyScore query text ↔ query.lower.letters.Sublist text.lower.letters := by
  by_cases inside : query.lower.letters <:+: text.lower.letters
  · have := fuzzyScore_of_infix worded inside
    exact iff_of_true (by omega) inside.sublist
  · rcases fuzzyScore_apart_cases worded inside with ⟨missing, none⟩ | ⟨fits, least, _⟩
    · exact iff_of_false (by omega) missing
    · exact iff_of_true (by omega) fits

theorem fuzzyScore_high (worded : query ≠ "") :
    60 ≤ fuzzyScore query text ↔ query.lower.letters <:+: text.lower.letters := by
  refine ⟨fun high => ?_, fuzzyScore_of_infix worded⟩
  by_contra apart
  have := fuzzyScore_apart_cases worded apart
  omega

end

/-- A query fits a text if its letters come in order there, letter case aside: with 60 or more if they come
together, and with 10 to 39 otherwise. A longer query fits fewer texts, as long as no letter's case depends on
what was added. -/
theorem fuzzyScore_fits (query text : Text) (worded : query ≠ "") :
    (0 < fuzzyScore query text ↔ query.lower.letters.Sublist text.lower.letters) ∧
    (60 ≤ fuzzyScore query text ↔ query.lower.letters <:+: text.lower.letters) ∧
    (¬ query.lower.letters <:+: text.lower.letters →
      fuzzyScore query text = 0 ∨ 10 ≤ fuzzyScore query text ∧ fuzzyScore query text ≤ 39) ∧
    ∀ more : Text, (query ++ more).lower = query.lower ++ more.lower →
      0 < fuzzyScore (query ++ more) text → 0 < fuzzyScore query text := by
  refine ⟨fuzzyScore_pos worded, fuzzyScore_high worded, fun apart => ?_, fun more joined fits => ?_⟩
  · rcases fuzzyScore_apart_cases worded apart with ⟨_, none⟩ | ⟨_, within⟩
    · exact .inl none
    · exact .inr within
  · have longer : query ++ more ≠ "" := fun none =>
      worded (congrArg Text.mk (List.append_eq_nil_iff.mp (congrArg Text.letters none)).1)
    rw [fuzzyScore_pos longer, joined] at fits
    rw [fuzzyScore_pos worded]
    exact (List.sublist_append_left query.lower.letters more.lower.letters).trans fits

/-- The letters of "DLg" come in order in "Delay Log", and so do those of "DL". -/
theorem fuzzyScore_fits_delay : ("DL" : Text) ≠ "" ∧
    (("DL" : Text) ++ ("g" : Text)).lower = Text.lower "DL" ++ Text.lower "g" ∧
    0 < fuzzyScore (("DL" : Text) ++ ("g" : Text)) "Delay Log" ∧ 0 < fuzzyScore "DL" "Delay Log" ∧
    10 ≤ fuzzyScore "DL" "Delay Log" ∧ fuzzyScore "DL" "Delay Log" ≤ 39 := by
  have worded : ("DL" : Text) ≠ "" := by decide
  have joined : (("DL" : Text) ++ ("g" : Text)).lower = Text.lower "DL" ++ Text.lower "g" := by decide +kernel
  have longer : 0 < fuzzyScore (("DL" : Text) ++ ("g" : Text)) "Delay Log" := by decide +kernel
  obtain ⟨_, _, bands, shorter⟩ := fuzzyScore_fits "DL" "Delay Log" worded
  have fits := shorter "g" joined longer
  obtain ⟨least, most⟩ := (bands (by decide +kernel)).resolve_left fits.ne'
  exact ⟨worded, joined, longer, fits, least, most⟩

namespace Template

def fields (t : Template) : List Text := [t.label, t.type, t.description, t.category.name]

variable {t : Template} {text : Text}

/-- The description weighs least, so a text at the head of some field is worth half of 80. -/
theorem worth_of_prefix (worded : text ≠ "")
    (head : ∃ field ∈ t.fields, text.lower.letters <+: field.lower.letters) : 40 ≤ t.worth text := by
  obtain ⟨field, listed, head⟩ := head
  have high : (80 : ℚ) ≤ fuzzyScore text field := by exact_mod_cast fuzzyScore_of_prefix worded head
  simp only [fields, List.mem_cons, List.not_mem_nil, or_false] at listed
  simp only [worth, le_max_iff]
  rcases listed with rfl | rfl | rfl | rfl
  · left; left; linarith
  · left; right; linarith
  · right; left; linarith
  · right; right; linarith

theorem worth_of_apart (worded : text ≠ "")
    (apart : ∀ field ∈ t.fields, ¬ text.lower.letters <:+: field.lower.letters) : t.worth text ≤ 39 := by
  have low (field : Text) (listed : field ∈ t.fields) : (fuzzyScore text field : ℚ) ≤ 39 := by
    have := fuzzyScore_apart_cases worded (apart field listed)
    exact_mod_cast (by omega : fuzzyScore text field ≤ 39)
  simp only [fields, List.forall_mem_cons, List.not_mem_nil, false_imp_iff, implies_true, and_true] at low
  obtain ⟨label, type, description, category⟩ := low
  simp only [worth, max_le_iff]
  refine ⟨⟨?_, ?_⟩, ?_, ?_⟩ <;> linarith

end Template

namespace Catalog.Ranks

variable {c : Catalog} {filter : Filter} {text : Text} {limit : Int} {found : List Template} {a b : Template}

theorem before (ranks : c.Ranks filter text limit found) (listed : a ∈ c.templates)
    (admitted : filter.admits a = true) (fits : 0 < a.worth text) (ahead : c.Ahead text a b) (there : b ∈ found) :
    a ∈ found ∧ found.idxOf a < found.idxOf b := by
  have here : a ∈ found := by
    by_contra missing
    exact ((ranks.rest a listed admitted fits missing).2 b there).asymm ahead
  refine ⟨here, ?_⟩
  have first := List.idxOf_lt_length_of_mem here
  have second := List.idxOf_lt_length_of_mem there
  by_contra late
  rcases Nat.lt_or_eq_of_le (Nat.not_lt.mp late) with early | same
  · have back := List.pairwise_iff_getElem.mp ranks.ordered _ _ second first early
    rw [List.getElem_idxOf, List.getElem_idxOf] at back
    exact back.asymm ahead
  · rw [(List.idxOf_inj there).mp same] at ahead
    exact ahead.asymm ahead

end Catalog.Ranks

/-- A template with a field that starts with the text comes before every one that only has the letters of the
text in order. -/
theorem search_anchored (c : Catalog) (query : Text) (filter : Filter) (recents : Option Recents) (limit : Int)
    (worded : (parseQuery query filter).2 ≠ "") (counts : 0 ≤ limit) :
    let active := (parseQuery query filter).1
    let text := (parseQuery query filter).2
    let found := search c query filter recents limit
    ∀ a ∈ c.templates, ∀ b ∈ c.templates, active.admits a = true → active.admits b = true →
      (∃ field ∈ a.fields, text.lower.letters <+: field.lower.letters) →
      (∀ field ∈ b.fields, ¬ text.lower.letters <:+: field.lower.letters) →
      b ∈ found → a ∈ found ∧ found.idxOf a < found.idxOf b := by
  intro active text found a listed b _ admitted _ anchored apart there
  have ranks : c.Ranks active text limit found := searchParsed_ranks worded counts
  have more := Template.worth_of_prefix worded anchored
  have less := Template.worth_of_apart worded apart
  have ahead : c.Ahead text a b := .inl (by linarith)
  exact ranks.before listed admitted (by linarith) ahead there

def runTemplate : Template := { type := "run", category := .math, context := .host, label := "ABCDEF" }

def hintTemplate : Template :=
  { type := "hint", category := .math, context := .target, label := "Hint", description := "Abcdf as a hint" }

def hintsCatalog : Catalog where
  templates := [runTemplate, hintTemplate]
  faultless := by decide

/-- A description that starts with the text just outweighs a label with a long run of its letters. -/
theorem search_anchored_hint :
    (parseQuery "abcdf" .all).2 ≠ "" ∧ (0 : Int) ≤ 5 ∧
      runTemplate ∈ search hintsCatalog "abcdf" .all none 5 ∧
      hintTemplate ∈ search hintsCatalog "abcdf" .all none 5 ∧
      (search hintsCatalog "abcdf" .all none 5).idxOf hintTemplate <
        (search hintsCatalog "abcdf" .all none 5).idxOf runTemplate := by
  have parsed : parseQuery "abcdf" .all = (Filter.all, ("abcdf" : Text)) := by decide
  have worded : (parseQuery "abcdf" .all).2 ≠ "" := by decide
  have found : search hintsCatalog "abcdf" .all none 5 = [hintTemplate, runTemplate] :=
    (searchParsed_ranks worded (by decide)).unique (by rw [parsed]; decide +kernel)
  have there : runTemplate ∈ search hintsCatalog "abcdf" .all none 5 := by simp [found]
  have before := search_anchored hintsCatalog "abcdf" .all none 5 worded (by decide)
  rw [parsed] at before
  exact ⟨worded, by decide, there,
    before hintTemplate (by decide) runTemplate (by decide) rfl rfl (by decide +kernel) (by decide +kernel) there⟩

end NodeScript
