import Mathlib.Algebra.Order.Ring.Rat
import Mathlib.Data.List.Nodup
import Mathlib.Data.List.Perm.Subperm
import Mathlib.Tactic.Linarith
import Mathlib.Tactic.MkIffOfInductiveProp
import Mathlib.Tactic.Ring
import NodeScript.Proofs.Catalog
import NodeScript.Search.Ranking

/-!
What a search finds. Whatever is searched for, the templates are those of the catalog. A query with
text finds the head of one ranking, which the catalog, the filter and the text decide: the admitted
templates that the text fits at all, the best first and ties in the order of the catalog.
-/
namespace NodeScript

/-- A stable sort leaves those that are as good as each other in the order they had. -/
theorem mergeSort_stable {α : Type} {le : α → α → Bool} {before : α → α → Prop} {l : List α}
    (trans : ∀ a b c, le a b → le b c → le a c) (total : ∀ a b, le a b || le b a)
    (inOrder : l.Pairwise before) :
    (l.mergeSort le).Pairwise fun a b => le a b ∧ (le b a → before a b) := by
  induction l with
  | nil => simp
  | cons a rest ih =>
      -- the head is put behind those that are better than it and before all others
      obtain ⟨first, later⟩ := List.pairwise_cons.mp inOrder
      obtain ⟨better, others, sorted, split, above⟩ := List.mergeSort_cons trans total a rest
      have ordered := List.pairwise_mergeSort trans total (a :: rest)
      have sofar := ih later
      rw [sorted, List.pairwise_append, List.pairwise_cons] at ordered
      rw [split, List.pairwise_append] at sofar
      rw [sorted, List.pairwise_append, List.pairwise_cons]
      refine ⟨sofar.1, ⟨fun b there => ⟨ordered.2.1.1 b there, fun _ => first b ?_⟩, sofar.2.1⟩,
        fun b there d next => ?_⟩
      · exact List.mem_mergeSort.mp (split ▸ List.mem_append_right better there)
      · rcases List.mem_cons.mp next with rfl | among
        · refine ⟨ordered.2.2 b there d (List.mem_cons_self ..), fun back => ?_⟩
          have worse := above b there
          simp [back] at worse
        · exact sofar.2.2 b there d among

theorem mergeSort_keyed {α κ : Type} (key : α → κ) (le : κ → κ → Bool) (l : List α) :
    ((l.map fun a => (key a, a)).mergeSort fun a b => le a.1 b.1).map (·.2) =
      l.mergeSort fun a b => le (key a) (key b) := by
  rw [← List.map_mergeSort (r := fun a b => le (key a) (key b)), List.map_map]
  · exact List.map_id _
  · exact fun _ _ _ _ => rfl

section

variable {c : Catalog} {t : Template} {text : Text} {templates : List Template}

theorem ranked_eq (text : Text) (templates : List Template) :
    ranked text templates =
      (templates.filter fun t => 0 < t.score text).mergeSort fun a b => b.score text ≤ a.score text := by
  rw [ranked, List.filter_map]
  exact mergeSort_keyed (Template.score text) (fun m n => n ≤ m) _

theorem mem_ranked : t ∈ ranked text templates ↔ t ∈ templates ∧ 0 < t.score text := by
  rw [ranked_eq, List.mem_mergeSort, List.mem_filter, decide_eq_true_eq]

theorem mem_alphabetical (member : t ∈ alphabetical templates) : t ∈ templates := by
  obtain ⟨entry, sorted, rfl⟩ := List.mem_map.mp member
  obtain ⟨u, listed, rfl⟩ := List.mem_map.mp (List.mem_mergeSort.mp sorted)
  exact listed

theorem mem_browse {recent : List Text} (member : t ∈ browse templates recent) : t ∈ templates := by
  rcases List.mem_append.mp member with before | after
  · obtain ⟨type, _, found⟩ := List.mem_filterMap.mp before
    exact List.mem_of_find?_eq_some found
  · exact List.mem_of_mem_filter (mem_alphabetical after)

theorem mem_searchParsed {filter : Filter} {recents : Option Recents} {limit : Int}
    (member : t ∈ searchParsed c filter text recents limit) : t ∈ c.templates := by
  have found := (upTo_sublist ..).subset member
  split at found
  · exact List.mem_of_mem_filter (mem_browse found)
  · exact List.mem_of_mem_filter (mem_ranked.mp found).1

theorem mem_search {query : Text} {filter : Filter} {recents : Option Recents} {limit : Int}
    (member : t ∈ search c query filter recents limit) : t ∈ c.templates := mem_searchParsed member

end

namespace Weighted

theorem better_total (a b : Weighted) : (better a b).total = max a.total b.total := by
  unfold better
  split <;> omega

end Weighted

namespace Template

/-- How well a text fits a template: the best fit of its fields, where the label counts in full,
the type 0.8, the category 0.6 and the description 0.5 of it. -/
def worth (text : Text) (t : Template) : ℚ :=
  max (max (fuzzyScore text t.label * 1) (fuzzyScore text t.type * (8 / 10)))
    (max (fuzzyScore text t.description * (5 / 10)) (fuzzyScore text t.category.name * (6 / 10)))

theorem score_eq (text : Text) (t : Template) : (t.score text : ℚ) = 10 * t.worth text := by
  have tenth : (0 : ℚ) ≤ 10 := by norm_num
  have best : t.score text =
      max (max (fuzzyScore text t.label * 10) (fuzzyScore text t.type * 8))
        (max (fuzzyScore text t.description * 5) (fuzzyScore text t.category.name * 6)) := by
    simp only [score, bestField, fieldScores, List.foldl_cons, List.foldl_nil, Weighted.better_total]
    simp only [Weighted.total]
    omega
  rw [best, worth, mul_max_of_nonneg _ _ tenth, mul_max_of_nonneg _ _ tenth, mul_max_of_nonneg _ _ tenth]
  push_cast
  congr 2 <;> ring

theorem score_lt {text : Text} {a b : Template} : a.score text < b.score text ↔ a.worth text < b.worth text := by
  rw [← Nat.cast_lt (α := ℚ), score_eq, score_eq]
  constructor <;> intro <;> linarith

theorem score_pos {text : Text} {t : Template} : 0 < t.score text ↔ 0 < t.worth text := by
  rw [← Nat.cast_pos (α := ℚ), score_eq]
  constructor <;> intro <;> linarith

end Template

namespace Catalog

/-- Whether `a` comes before `b` in the ranking: it is worth more, or it is worth as much and stands
before `b` in the catalog. -/
def Ahead (c : Catalog) (text : Text) (a b : Template) : Prop :=
  b.worth text < a.worth text ∨
    a.worth text = b.worth text ∧ c.templates.idxOf a < c.templates.idxOf b

instance Ahead.decidable (c : Catalog) (text : Text) (a b : Template) : Decidable (c.Ahead text a b) :=
  inferInstanceAs (Decidable (_ ∨ _))

theorem Ahead.asymm {c : Catalog} {text : Text} {a b : Template} (ahead : c.Ahead text a b) :
    ¬ c.Ahead text b a := by
  rintro (more | ⟨same, before⟩)
  · rcases ahead with less | ⟨same, _⟩
    · exact absurd more less.not_gt
    · exact absurd same more.ne
  · rcases ahead with less | ⟨_, after⟩
    · exact absurd same less.ne
    · omega

/-- The first templates of the ranking, up to a limit. -/
@[mk_iff]
structure Ranks (c : Catalog) (filter : Filter) (text : Text) (limit : Int) (found : List Template) :
    Prop where
  distinct : (found.map (·.type)).Nodup
  fits : ∀ t ∈ found, t ∈ c.templates ∧ filter.admits t = true ∧ 0 < t.worth text
  ordered : found.Pairwise (c.Ahead text)
  within : found.length ≤ limit
  rest : ∀ t ∈ c.templates, filter.admits t = true → 0 < t.worth text → t ∉ found →
    found.length = limit ∧ ∀ u ∈ found, c.Ahead text u t

namespace Ranks

variable {c : Catalog} {filter : Filter} {text : Text} {limit : Int} {found others : List Template}

instance decidable (c : Catalog) (filter : Filter) (text : Text) (limit : Int) (found : List Template) :
    Decidable (c.Ranks filter text limit found) := decidable_of_iff _ (ranks_iff ..).symm

theorem subset (first : c.Ranks filter text limit found) (second : c.Ranks filter text limit others) :
    found ⊆ others := by
  intro t member
  by_contra missing
  obtain ⟨listed, admitted, fits⟩ := first.fits t member
  obtain ⟨full, behind⟩ := second.rest t listed admitted fits missing
  obtain ⟨u, other, gone⟩ : ∃ u ∈ others, u ∉ found := by
    by_contra all
    push Not at all
    have once : (t :: others).Nodup := List.nodup_cons.mpr ⟨missing, second.distinct.of_map⟩
    have short := (once.subperm (List.cons_subset.mpr ⟨member, all⟩)).length_le
    have within := first.within
    rw [List.length_cons] at short
    omega
  obtain ⟨there, passes, worthy⟩ := second.fits u other
  exact (behind u other).asymm ((first.rest u there passes worthy gone).2 t member)

/-- There is one such list. -/
theorem unique (first : c.Ranks filter text limit found) (second : c.Ranks filter text limit others) :
    found = others := by
  have same : found.Perm others :=
    (List.perm_ext_iff_of_nodup first.distinct.of_map second.distinct.of_map).mpr fun _ =>
      ⟨fun member => first.subset second member, fun member => second.subset first member⟩
  exact same.eq_of_pairwise (fun _ _ _ _ ahead back => absurd back ahead.asymm) first.ordered second.ordered

end Ranks

theorem inOrder (c : Catalog) :
    c.templates.Pairwise fun a b => c.templates.idxOf a < c.templates.idxOf b := by
  have once : c.templates.Nodup := c.distinct.of_map
  rw [List.pairwise_iff_getElem]
  intro i j early late before
  rwa [once.idxOf_getElem, once.idxOf_getElem]

end Catalog

section

variable {c : Catalog} {filter : Filter} {text : Text}

theorem ranked_ordered (c : Catalog) (filter : Filter) (text : Text) :
    (ranked text (c.templates.filter filter.admits)).Pairwise (c.Ahead text) := by
  have listed := (c.inOrder.filter filter.admits).filter fun t => 0 < t.score text
  rw [ranked_eq]
  refine (mergeSort_stable ?_ ?_ listed).imp fun {a b} ⟨best, tied⟩ => ?_
  · intro a b d
    simp only [decide_eq_true_eq]
    omega
  · intro a b
    simp only [Bool.or_eq_true, decide_eq_true_eq]
    omega
  · simp only [decide_eq_true_eq, ← not_lt, Template.score_lt] at best tied
    rcases lt_or_eq_of_le (not_lt.mp best) with more | same
    · exact .inl more
    · exact .inr ⟨same.symm, tied same.not_lt⟩

theorem ranked_distinct (c : Catalog) (filter : Filter) (text : Text) :
    ((ranked text (c.templates.filter filter.admits)).map (·.type)).Nodup := by
  rw [ranked_eq, ((List.mergeSort_perm _ _).map _).nodup_iff]
  exact c.distinct.sublist ((List.filter_sublist.trans List.filter_sublist).map _)

theorem searchParsed_ranks {recents : Option Recents} {limit : Int} (worded : text ≠ "") (counts : 0 ≤ limit) :
    c.Ranks filter text limit (searchParsed c filter text recents limit) := by
  have found : searchParsed c filter text recents limit =
      (ranked text (c.templates.filter filter.admits)).take limit.toNat := by
    simp [searchParsed, worded, upTo, counts]
  have ordered := ranked_ordered c filter text
  rw [← List.take_append_drop limit.toNat (ranked _ _), List.pairwise_append] at ordered
  rw [found]
  refine ⟨?_, fun t member => ?_, ordered.1, ?_, fun t listed admitted fits left => ?_⟩
  · exact (ranked_distinct c filter text).sublist ((List.take_sublist ..).map _)
  · obtain ⟨passed, fits⟩ := mem_ranked.mp (List.mem_of_mem_take member)
    obtain ⟨listed, admitted⟩ := List.mem_filter.mp passed
    exact ⟨listed, admitted, Template.score_pos.mp fits⟩
  · rw [List.length_take]
    omega
  · have member := mem_ranked.mpr ⟨List.mem_filter.mpr ⟨listed, admitted⟩, Template.score_pos.mpr fits⟩
    rw [← List.take_append_drop limit.toNat (ranked _ _), List.mem_append] at member
    have behind := member.resolve_left left
    have more := List.length_pos_of_mem behind
    rw [List.length_drop] at more
    refine ⟨?_, fun u first => ordered.2.2 u first t behind⟩
    rw [List.length_take]
    omega

end

/-- The filter that a query selects: that of the shortcut at its head, the given one if it has none. -/
structure Text.Selects (query : Text) (given active : Filter) : Prop where
  shortcut : ∀ s ∈ shortcuts, s.1.letters <+: query.trim.letters → active = s.2
  plain : (∀ s ∈ shortcuts, ¬ s.1.letters <+: query.trim.letters) → active = given

theorem shortcuts_alone : ∀ s ∈ shortcuts, ∀ u ∈ shortcuts, s.1.letters.length = u.1.letters.length ∧
    (s.1.letters = u.1.letters → s = u) := by
  decide

theorem Text.after?_eq_none {head : Text} {letters : List Letter} :
    head.after? letters = none ↔ ¬ head.letters <+: letters := by
  simp [Text.after?]

theorem shortcut?_eq_none {query : Text} :
    shortcut? query = none ↔ ∀ s ∈ shortcuts, ¬ s.1.letters <+: query.trim.letters := by
  simp [shortcut?, Text.after?_eq_none]

theorem parseQuery_selects (query : Text) (filter : Filter) :
    query.Selects filter (parseQuery query filter).1 := by
  unfold parseQuery
  cases found : shortcut? query with
  | none => exact ⟨fun s listed head => absurd head (shortcut?_eq_none.mp found s listed), fun _ => rfl⟩
  | some chosen =>
      obtain ⟨u, listed, ahead⟩ := List.exists_of_findSome?_eq_some found
      obtain ⟨rest, cut, rfl⟩ := Option.map_eq_some_iff.mp ahead
      have head : u.1.letters <+: query.trim.letters := by
        by_contra other
        rw [Text.after?_eq_none.mpr other] at cut
        cases cut
      refine ⟨fun s there first => ?_, fun plain => absurd head (plain u listed)⟩
      obtain ⟨long, alone⟩ := shortcuts_alone u listed s there
      rw [← alone (List.prefix_of_prefix_length_le head first long.le |>.eq_of_length long)]
      rfl

/-- A query with text finds the head of the ranking, whatever was used recently. -/
theorem search_ranks (c : Catalog) (query : Text) (filter : Filter) (recents : Option Recents) (limit : Int)
    (worded : (parseQuery query filter).2 ≠ "") (counts : 0 ≤ limit) :
    let active := (parseQuery query filter).1
    let text := (parseQuery query filter).2
    let found := search c query filter recents limit
    query.Selects filter active ∧ c.Ranks active text limit found ∧
      ∀ others, search c query filter others limit = found :=
  ⟨parseQuery_selects query filter, searchParsed_ranks worded counts, fun _ =>
    (searchParsed_ranks worded counts).unique (searchParsed_ranks worded counts)⟩

def loopTemplate : Template := { type := "loop", category := .flow, context := .host, label := "Loop" }

def logTemplate : Template := { type := "log", category := .output, context := .host, label := "Log" }

def loopsCatalog : Catalog where
  templates := [
    { type := "slot", category := .memory, context := .host, label := "Slot" },
    loopTemplate,
    { type := "lock", category := .memory, context := .target, label := "Lock" },
    logTemplate,
    { type := "delay", category := .flow, context := .host, label := "Delay" }]
  faultless := by decide

/-- The shortcut wins over the filter beside it. Of the four that fit, the two that fit best tie. -/
theorem search_ranks_shortcut :
    (parseQuery " @h LO" .memory).2 ≠ "" ∧ (0 : Int) ≤ 2 ∧
      loopsCatalog.Ranks .host "LO" 2 (search loopsCatalog " @h LO" .memory none 2) ∧
      search loopsCatalog " @h LO" .memory none 2 = [loopTemplate, logTemplate] := by
  have worded : (parseQuery " @h LO" .memory).2 ≠ "" := by decide
  have parsed : parseQuery " @h LO" .memory = (Filter.host, ("LO" : Text)) := by decide
  obtain ⟨_, ranks, _⟩ := search_ranks loopsCatalog " @h LO" .memory none 2 worded (by decide)
  rw [parsed] at ranks
  exact ⟨worded, by decide, ranks, ranks.unique (by decide +kernel)⟩

end NodeScript
