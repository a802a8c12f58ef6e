import Mathlib.Data.List.Lex
import Mathlib.Data.Prod.Lex
import NodeScript.Proofs.Lookup
import NodeScript.Proofs.Search.Ranking
import NodeScript.Proofs.Search.Recents

/-!
What a search without text finds. It finds the head of one list, in which every admitted template is once: those
that were used recently, in the order of their use, and behind them all others by category and label.
-/
namespace NodeScript

theorem Letter.toNat_injective : Function.Injective Letter.toNat := by
  have apart (c : Char) (n : Fin 0x800) : c.toNat ≠ firstHalf + n := by
    have valid := c.valid
    simp only [UInt32.isValidChar, Nat.isValidChar] at valid
    simp only [Char.toNat, firstHalf]
    omega
  intro a b same
  cases a with
  | char c =>
    cases b with
    | char d => exact congrArg char (Char.toNat_inj.mp same)
    | half n => exact absurd same (apart c n)
  | half m =>
    cases b with
    | char d => exact absurd same.symm (apart d m)
    | half n => exact congrArg half (Fin.ext (Nat.add_left_cancel same))

theorem Text.numbers_injective : Function.Injective Text.numbers := by
  intro a b same
  exact congrArg Text.mk (List.map_injective_iff.mpr Letter.toNat_injective same)

theorem Text.lt_iff {a b : Text} : a < b ↔ a.numbers < b.numbers := List.lex_eq_true_iff_lt

theorem Text.le_iff {a b : Text} : a ≤ b ↔ a.numbers ≤ b.numbers := by
  rw [← not_lt, ← Text.lt_iff]
  exact Bool.eq_false_iff

def keyNumbers (key : Text × Text) : Lex (List Nat × List Nat) := toLex (key.1.numbers, key.2.numbers)

theorem keyLe_iff {a b : Text × Text} : keyLe a b = true ↔ keyNumbers a ≤ keyNumbers b := by
  simp only [keyLe, keyNumbers, Prod.Lex.toLex_le_toLex, Bool.or_eq_true, Bool.and_eq_true, decide_eq_true_eq,
    Text.lt_iff, Text.le_iff, ← Text.numbers_injective.eq_iff]

namespace Catalog

/-- Whether `a` comes before `b` in an alphabetical list: by its category, by its label in that category, letter
case aside in both, and by its place in the catalog if these are the same. -/
def Sooner (c : Catalog) (a b : Template) : Prop :=
  a.category.name.lower < b.category.name.lower ∨
    a.category.name.lower = b.category.name.lower ∧
      (a.label.lower < b.label.lower ∨
        a.label.lower = b.label.lower ∧ c.templates.idxOf a < c.templates.idxOf b)

instance Sooner.decidable (c : Catalog) (a b : Template) : Decidable (c.Sooner a b) :=
  inferInstanceAs (Decidable (_ ∨ _))

variable {c : Catalog} {a b : Template}

/-- The key of a template, and its place in the catalog, which decides where the keys are the same. -/
def listRank (c : Catalog) (t : Template) : Lex (Lex (List Nat × List Nat) × Nat) :=
  toLex (keyNumbers (sortKey t), c.templates.idxOf t)

theorem sooner_iff : c.Sooner a b ↔ c.listRank a < c.listRank b := by
  simp only [Sooner, listRank, Prod.Lex.toLex_lt_toLex, keyNumbers, sortKey, Text.lt_iff,
    ← Text.numbers_injective.eq_iff, toLex_inj, Prod.mk.injEq]
  tauto

theorem Sooner.asymm (ahead : c.Sooner a b) : ¬ c.Sooner b a := by
  rw [sooner_iff] at ahead ⊢
  exact lt_asymm ahead

/-- The admitted templates of a catalog, which has no template twice: those of recent types in the order of the
types, and all others in alphabetical order. -/
@[mk_iff]
structure Browses (c : Catalog) (filter : Filter) (recent : List Text) (used others : List Template) : Prop where
  each : (used ++ others).Perm (c.templates.filter filter.admits)
  recency : used.map (·.type) =
    recent.filter fun type => c.templates.any fun t => filter.admits t && t.type = type
  sorted : others.Pairwise c.Sooner

end Catalog

section

variable {templates : List Template} {recent : List Text} {t : Template}

theorem alphabetical_eq (templates : List Template) :
    alphabetical templates = templates.mergeSort fun a b => keyLe (sortKey a) (sortKey b) :=
  mergeSort_keyed sortKey keyLe templates

theorem alphabetical_sooner {c : Catalog} (inOrder : templates.Pairwise fun a b =>
    c.templates.idxOf a < c.templates.idxOf b) : (alphabetical templates).Pairwise c.Sooner := by
  rw [alphabetical_eq]
  refine (mergeSort_stable ?_ ?_ inOrder).imp fun {a b} ⟨least, tied⟩ => ?_
  · intro a b d
    simp only [keyLe_iff]
    exact le_trans
  · intro a b
    simp only [Bool.or_eq_true, keyLe_iff]
    exact le_total _ _
  · rw [keyLe_iff] at least tied
    rw [Catalog.sooner_iff, Catalog.listRank, Catalog.listRank, Prod.Lex.toLex_lt_toLex]
    rcases lt_or_eq_of_le least with less | same
    · exact .inl less
    · exact .inr ⟨same, tied same.ge⟩

/-- The templates of recent types, in the order of the types. -/
def ofTypes (templates : List Template) (recent : List Text) : List Template :=
  recent.filterMap fun type => templates.find? (·.type = type)

theorem ofTypes_types (templates : List Template) (recent : List Text) :
    (ofTypes templates recent).map (·.type) = recent.filter fun type => templates.any (·.type = type) := by
  induction recent with
  | nil => rfl
  | cons type rest ih =>
    cases found : templates.find? (·.type = type) with
    | none =>
      have unknown : ¬ templates.any (·.type = type) = true := by simpa using found
      rw [ofTypes, List.filterMap_cons, found, List.filter_cons, if_neg unknown]
      exact ih
    | some t =>
      have named : t.type = type := by simpa using List.find?_some found
      have known : templates.any (·.type = type) = true :=
        List.any_eq_true.mpr ⟨t, List.mem_of_find?_eq_some found, by simp [named]⟩
      rw [ofTypes, List.filterMap_cons, found, List.filter_cons, if_pos known, List.map_cons, named]
      exact congrArg _ ih

theorem mem_ofTypes (distinct : (templates.map (·.type)).Nodup) :
    t ∈ ofTypes templates recent ↔ t ∈ templates ∧ t.type ∈ recent := by
  rw [ofTypes, List.mem_filterMap]
  constructor
  · rintro ⟨type, listed, found⟩
    have named : t.type = type := by simpa using List.find?_some found
    exact ⟨List.mem_of_find?_eq_some found, named ▸ listed⟩
  · rintro ⟨member, listed⟩
    exact ⟨t.type, listed, find?_key distinct member⟩

theorem browse_perm (distinct : (templates.map (·.type)).Nodup) (once : recent.Nodup) :
    (browse templates recent).Perm templates := by
  have single : (ofTypes templates recent).Nodup := by
    apply List.Nodup.of_map (·.type)
    rw [ofTypes_types]
    exact once.filter _
  have used : (ofTypes templates recent).Perm (templates.filter fun t => recent.contains t.type) := by
    rw [List.perm_ext_iff_of_nodup single (distinct.of_map.filter _)]
    intro t
    rw [mem_ofTypes distinct, List.mem_filter, List.contains_iff_mem]
  have others (l : List Template) : (alphabetical l).Perm l := by
    rw [alphabetical_eq]
    exact List.mergeSort_perm ..
  calc
    browse templates recent
      = ofTypes templates recent ++ alphabetical (templates.filter fun t => !recent.contains t.type) := rfl
    List.Perm _ ((templates.filter fun t => recent.contains t.type) ++
        templates.filter fun t => !recent.contains t.type) := used.append (others _)
    List.Perm _ templates := List.filter_append_perm ..

end

namespace Catalog.Browses

variable {c : Catalog} {filter : Filter} {recent : List Text} {used others first rest : List Template}

theorem ofTypes_self (within : used ⊆ c.templates) : ofTypes c.templates (used.map (·.type)) = used := by
  have each : ∀ t ∈ used, c.templates.find? (fun u => decide (u.type = t.type)) = some t :=
    fun t member => find?_key c.distinct (within member)
  rw [ofTypes, List.filterMap_map]
  exact (List.filterMap_congr each).trans List.filterMap_some

theorem within (browses : c.Browses filter recent used others) : used ⊆ c.templates := fun _ member =>
  List.mem_of_mem_filter (browses.each.subset (List.mem_append_left _ member))

theorem unique (one : c.Browses filter recent used others) (two : c.Browses filter recent first rest) :
    used = first ∧ others = rest := by
  have same : used = first := by
    rw [← ofTypes_self one.within, one.recency, ← two.recency, ofTypes_self two.within]
  subst same
  have left : others.Perm rest := (List.perm_append_left_iff used).mp (one.each.trans two.each.symm)
  exact ⟨rfl, left.eq_of_pairwise (fun _ _ _ _ ahead back => absurd back ahead.asymm) one.sorted two.sorted⟩

instance decidable (c : Catalog) (filter : Filter) (recent : List Text) (used others : List Template) :
    Decidable (c.Browses filter recent used others) := decidable_of_iff _ (browses_iff ..).symm

end Catalog.Browses

theorem browse_browses (c : Catalog) (filter : Filter) {recent : List Text} (once : recent.Nodup) :
    ∃ used others, c.Browses filter recent used others ∧
      browse (c.templates.filter filter.admits) recent = used ++ others := by
  have distinct : ((c.templates.filter filter.admits).map (·.type)).Nodup :=
    c.distinct.sublist (List.filter_sublist.map _)
  refine ⟨_, _, ⟨browse_perm distinct once, ?_, ?_⟩, rfl⟩
  · exact (ofTypes_types ..).trans (by simp only [List.any_filter])
  · exact alphabetical_sooner ((c.inOrder.filter _).filter _)

/-- A query without text finds the head of the list of all admitted templates, the recent ones first. Recent types
that do not pass the filter or are in no catalog neither hide a template nor repeat one. -/
theorem search_browses (c : Catalog) (query : Text) (filter : Filter) (recents : Option Recents) (limit : Int)
    (made : ∀ r ∈ recents, r.Made) (wordless : (parseQuery query filter).2 = "") (counts : 0 ≤ limit) :
    ∃ used others,
      c.Browses (parseQuery query filter).1 (recents.elim [] (·.types)) used others ∧
      search c query filter recents limit = (used ++ others).take limit.toNat := by
  have once : (recents.elim [] (·.types)).Nodup := by
    cases recents with
    | none => exact List.nodup_nil
    | some r => exact (made r rfl).distinct
  obtain ⟨used, others, browses, whole⟩ := browse_browses c (parseQuery query filter).1 once
  refine ⟨used, others, browses, ?_⟩
  rw [← whole]
  simp only [search, searchParsed, wordless, upTo, counts, if_true]

def saveTemplate : Template := { type := "save", category := .memory, context := .host, label := "Save" }

def waitTemplate : Template := { type := "wait", category := .flow, context := .host, label := "Wait" }

def pauseTemplate : Template := { type := "pause", category := .flow, context := .host, label := "WAIT" }

def printTemplate : Template := { type := "print", category := .output, context := .host, label := "Print" }

def waitsCatalog : Catalog where
  templates := [saveTemplate, waitTemplate, pauseTemplate, printTemplate,
    { type := "hook", category := .interceptors, context := .target, label := "Hook" }]
  faultless := by decide

/-- The types "hook" and "gone" are recent too; the one does not pass the filter, the other is in no catalog. -/
def waitsRecents : Recents :=
  (Recents.ofList [.str "hook", .str "print", .int 1, .str "gone"] 3).run [.record "print"]

/-- Two templates have the same key and are in the order of the catalog. -/
theorem search_browses_waits : (∀ r ∈ some waitsRecents, r.Made) ∧ (parseQuery " @h " .all).2 = "" ∧ (0 : Int) ≤ 3 ∧
    search waitsCatalog " @h " .all (some waitsRecents) 3 = [printTemplate, waitTemplate, pauseTemplate] := by
  have made : ∀ r ∈ some waitsRecents, r.Made := by
    rintro r ⟨⟩
    exact ⟨_, _, _, rfl⟩
  have parsed : parseQuery " @h " .all = (Filter.host, ("" : Text)) := by decide
  have wordless : (parseQuery " @h " .all).2 = "" := congrArg Prod.snd parsed
  obtain ⟨used, others, browses, found⟩ :=
    search_browses waitsCatalog " @h " .all (some waitsRecents) 3 made wordless (by decide)
  rw [parsed] at browses
  have listed : waitsCatalog.Browses .host waitsRecents.types [printTemplate]
      [waitTemplate, pauseTemplate, saveTemplate] := by
    decide +kernel
  obtain ⟨rfl, rfl⟩ := browses.unique listed
  exact ⟨made, wordless, by decide, found⟩

end NodeScript
