import NodeScript.Proofs.Search.Recents
import NodeScript.Proofs.Storage.Files
import NodeScript.Proofs.Storage.Lasting
import NodeScript.Proofs.Storage.Levels
import NodeScript.Storage.RecentsFile

/-!
Recent types over time and in their file. The list holds the first of all types that were used, as many as there
is place for; a saved list is loaded again where there is place for it and its types are known.
-/
namespace NodeScript

open Json Reader

namespace RecentsFile

variable {r : Recents} {path : Text} {files left : Files}

def record (types : List Text) : Json := .obj [("version", .int version), ("types", ofTexts types)]

theorem text_eq (r : Recents) : text r = (record r.types).document := rfl

theorem complete_texts (types : List Text) : completeItems (types.map str) = true := by
  induction types with
  | nil => rfl
  | cons type types ih =>
    rw [List.map_cons, completeItems, ih]
    rfl

theorem complete_record (types : List Text) : complete (record types) = true := by
  simp only [record, complete, completeMembers, ofTexts, complete_texts, Bool.and_true]
  decide

theorem depth_record (types : List Text) : depth (record types) ≤ nestingLimit := by
  have texts : depth (ofTexts types) ≤ 1 := depth_list fun _ _ => Nat.le_refl _
  have limit : 2 ≤ nestingLimit := by decide
  simp only [record, depth, depthMembers]
  omega

theorem reads (types : List Text) : Reads (read (reread (record types))) (types.map fun type => str type.joined) :=
  ((reads_of fun (_ : Int) (types : List Json) => types).and ((reads_of version).under "version")).and
    ((reads_list types fun type => reads_of (str type.joined)).under "types")

theorem ofText?_text (r : Recents) : ofText? (text r) = some (r.types.map fun type => str type.joined) := by
  rw [ofText?, text_eq, read_document _ (complete_record r.types) (depth_record r.types)]
  simp only [run, reads r.types {}]
  rfl

theorem filterMap_texts (types : List Text) : (types.map str).filterMap Recents.textOf? = types := by
  rw [List.filterMap_map]
  exact List.filterMap_some

/-- Saved types are loaded, if there is place for them, they are known and none has two halves of a character
side by side, which are read as the character. -/
theorem loadAmong_save {maxSize : Int} {known : Option (List Text)} (distinct : r.types.Nodup)
    (saved : save r path files = (true, left)) (room : r.types.length ≤ maxSize)
    (familiar : ∀ types ∈ known, r.types ⊆ types) (lasting : ∀ type ∈ r.types, type.lasts = true) :
    (loadAmong left path maxSize known).types = r.types := by
  have found : left.text? path = some (text r) := by
    have kept := Files.text?_write (congrArg Prod.fst saved)
    rwa [show files.write path (text r) = (true, left) from saved] at kept
  have entries : ((left.text? path).bind ofText?).getD [] = r.types.map str := by
    rw [found, Option.bind_some, ofText?_text, Option.getD_some]
    apply List.map_congr_left
    intro type member
    rw [(Text.joined_eq_iff type).mpr (lasting type member)]
  have taken : loadAmong left path maxSize known = Recents.ofList (r.types.map str) maxSize := by
    cases known with
    | none => rw [loadAmong, entries]
    | some types =>
      rw [loadAmong, entries]
      congr 1
      apply List.filter_eq_self.mpr
      intro entry member
      obtain ⟨type, listed, rfl⟩ := List.mem_map.mp member
      exact List.contains_iff_mem.mpr (familiar types rfl listed)
  have size : maxSize = maxSize.toNat := by omega
  rw [taken, Recents.ofList, filterMap_texts, eraseDups_eq_self distinct, size, upTo_natCast]
  exact List.take_of_length_le (by omega)

end RecentsFile

/-- However many types are recorded and however often the list is cleared, it holds the first of those it would
hold without a limit, and so of those any longer list holds. A saved list is loaded again, where there is place
for it, its types are known and each of them is read from a file as it was written. -/
theorem Recents.run_latest (entries : List Json) (maxSize : Int) (steps : List RecentsStep) (counts : 0 ≤ maxSize) :
    let r := (ofList entries maxSize).run steps
    r.types = (history (entries.filterMap textOf?) steps).eraseDups.take maxSize.toNat ∧
    (∀ larger, maxSize ≤ larger → r.types = ((ofList entries larger).run steps).types.take maxSize.toNat) ∧
    ∀ (path : Text) (files left : Files) (storeSize : Int) (known : Option (List Text)),
      RecentsFile.save r path files = (true, left) → r.types.length ≤ storeSize →
      (∀ types ∈ known, r.types ⊆ types) → (∀ type ∈ r.types, type.lasts = true) →
      (RecentsFile.loadAmong left path storeSize known).types = r.types := by
  intro r
  have cut (size : Int) (positive : 0 ≤ size) : ((ofList entries size).run steps).types =
      (history (entries.filterMap textOf?) steps).eraseDups.take size.toNat := by
    have sized := (run_types entries size.toNat steps).2
    rwa [Int.toNat_of_nonneg positive] at sized
  have made : r.Made := ⟨entries, maxSize, steps, rfl⟩
  refine ⟨cut maxSize counts, fun larger more => ?_, fun path files left storeSize known saved room => ?_⟩
  · have fewer : maxSize.toNat ≤ larger.toNat := by omega
    rw [cut maxSize counts, cut larger (by omega), List.take_take, Nat.min_eq_left fewer]
  · exact RecentsFile.loadAmong_save made.distinct saved room

def evictedEntries : List Json := [.str "log", .int 3, .str "if", .null, .str "log"]

/-- "if" goes to the front again when it was already cut off. -/
def evicted : Recents := (Recents.ofList evictedEntries 2).run [.record "wait", .record "if"]

theorem Recents.run_latest_evicted : (0 : Int) ≤ 2 ∧ evicted.types = ["if", "wait"] ∧
    evicted.types = ((ofList evictedEntries 3).run [.record "wait", .record "if"]).types.take 2 ∧
    ∃ left, RecentsFile.save evicted "recent_nodes.json" {} = (true, left) ∧
      (RecentsFile.loadAmong left "recent_nodes.json" 2 (some ["wait", "log", "if"])).types = evicted.types := by
  obtain ⟨latest, cut, loaded⟩ := run_latest evictedEntries 2 [.record "wait", .record "if"] (by decide)
  have saved : RecentsFile.save evicted "recent_nodes.json" {} =
      (true, (RecentsFile.save evicted "recent_nodes.json" {}).2) := rfl
  exact ⟨by decide, latest.trans (by decide), cut 3 (by decide), _, saved,
    loaded "recent_nodes.json" {} _ 2 (some ["wait", "log", "if"]) saved (by decide) (by decide) (by decide)⟩

end NodeScript
