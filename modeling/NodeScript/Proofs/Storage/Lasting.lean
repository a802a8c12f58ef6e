import NodeScript.Proofs.Storage.Records

namespace NodeScript

namespace Letter

/-- No two letters that stand together tell a character. -/
def unpaired : List Letter → Bool
  | a :: b :: rest => (paired? a b).isNone && unpaired (b :: rest)
  | _ => true

theorem length_joined_le (ls : List Letter) : (joined ls).length ≤ ls.length := by
  fun_induction joined ls with
  | case1 a b rest c pair ih =>
    simp only [List.length_cons]
    omega
  | case2 a b rest none ih => exact Nat.succ_le_succ ih
  | case3 => exact Nat.le_refl _

theorem joined_eq_iff (ls : List Letter) : joined ls = ls ↔ unpaired ls = true := by
  fun_induction joined ls with
  | case1 a b rest c pair ih =>
    have shorter := length_joined_le rest
    refine iff_of_false (fun same => ?_) (by simp [unpaired, pair])
    have := congrArg List.length same
    simp only [List.length_cons] at this
    omega
  | case2 a b rest none ih => simp [unpaired, none, ih]
  | case3 ls short => cases ls with
    | nil => simp [unpaired]
    | cons a more => cases more with
      | nil => simp [unpaired]
      | cons b rest => exact absurd rfl (short a b rest)

theorem unpaired_of_chars {ls : List Letter} (chars : ∀ a ∈ ls, a.isChar = true) : unpaired ls = true := by
  fun_induction unpaired ls with
  | case1 a b rest ih =>
    have first := chars a List.mem_cons_self
    rw [Bool.and_eq_true]
    refine ⟨?_, ih fun c here => chars c (List.mem_cons_of_mem a here)⟩
    cases a with
    | char c => rfl
    | half n => contradiction
  | case2 => rfl

end Letter

namespace Text

def lasts (text : Text) : Bool := Letter.unpaired text.letters

theorem joined_eq_iff (text : Text) : text.joined = text ↔ text.lasts = true := by
  rw [lasts, ← Letter.joined_eq_iff]
  exact ⟨fun same => congrArg letters same, fun same => congrArg Text.mk same⟩

theorem encodable_iff (text : Text) : text.encodable = true ↔ ∀ a ∈ text.letters, a.isChar = true := by
  obtain ⟨ls⟩ := text
  unfold encodable chars?
  dsimp only
  induction ls with
  | nil => simp
  | cons a ls ih =>
    cases a with
    | char c =>
      rw [List.mapM_cons, List.forall_mem_cons, ← ih]
      cases List.mapM Letter.char? ls <;> simp [Letter.char?, Letter.isChar]
    | half n => simp [Letter.char?, Letter.isChar]

theorem isChar_replaced (text : Text) : ∀ a ∈ text.replaced.letters, a.isChar = true := by
  intro a here
  obtain ⟨b, -, here⟩ := List.mem_flatMap.mp here
  split at here
  · rename_i shown
    rwa [List.mem_singleton.mp here]
  · rw [List.eq_of_mem_replicate here]
    rfl

theorem replaced_of_encodable {text : Text} (encodable : text.encodable = true) : text.replaced = text := by
  have kept (ls : List Letter) (chars : ∀ a ∈ ls, a.isChar = true) :
      (ls.flatMap fun a => if a.isChar then [a] else List.replicate 3 (.char '\uFFFD')) = ls := by
    induction ls with
    | nil => rfl
    | cons a ls ih =>
      rw [List.flatMap_cons, if_pos (chars a List.mem_cons_self),
        ih fun b here => chars b (List.mem_cons_of_mem a here)]
      rfl
  exact congrArg Text.mk (kept text.letters ((encodable_iff text).mp encodable))

/-- What is read of the name of a parameter is the name if it is a text of characters. -/
theorem joined_replaced_eq_iff (text : Text) : text.replaced.joined = text ↔ text.encodable = true := by
  have joined : text.replaced.joined = text.replaced :=
    (joined_eq_iff _).mpr (Letter.unpaired_of_chars text.isChar_replaced)
  rw [joined]
  refine ⟨fun same => ?_, replaced_of_encodable⟩
  rw [encodable_iff, ← same]
  exact text.isChar_replaced

end Text

namespace Json

mutual
def lasts : Json → Bool
  | float x => x.isFinite
  | str text => text.lasts
  | arr items => lastsItems items
  | obj members => (members.map Prod.fst).Nodup && lastsMembers members
  | _ => true
def lastsItems : List Json → Bool
  | [] => true
  | item :: items => lasts item && lastsItems items
def lastsMembers : List (Text × Json) → Bool
  | [] => true
  | (name, value) :: members => name.lasts && lasts value && lastsMembers members
end

theorem rereadMembers_eq (before members : Members) :
    rereadMembers before members = Entries.putAll Text.joined reread before members := by
  induction members generalizing before with
  | nil => rfl
  | cons m members ih => exact ih _

theorem finitePartMembers_eq (members : Members) :
    finitePartMembers members = members.map fun m => (m.1, m.2.finitePart) := by
  induction members with
  | nil => rfl
  | cons m members ih => rw [finitePartMembers, ih, List.map_cons]

section

variable {members out : Members} (rename : Text → Text)

/-- Members that were written under other names, those with one name as one. They are read as they were if
their names differ and each of them is. -/
theorem rereadMembers_eq_iff (short : out.length ≤ members.length)
    (full : out.length = members.length → out = members.map fun m => (rename m.1, m.2.finitePart))
    (apart : (members.map fun m => rename m.1).Nodup → out = members.map fun m => (rename m.1, m.2.finitePart)) :
    rereadMembers [] out = members ↔ (members.map Prod.fst).Nodup ∧
      (members.map fun m => ((rename m.1).joined, m.2.finitePart.reread)) = members := by
  have names (kept : (members.map fun m => ((rename m.1).joined, m.2.finitePart.reread)) = members) :
      (members.map fun m => (rename m.1).joined) = members.map Prod.fst := by
    conv_rhs => rw [← kept, List.map_map]
    rfl
  have all (distinct : (members.map fun m => (rename m.1).joined).Nodup)
      (each : out = members.map fun m => (rename m.1, m.2.finitePart)) :
      rereadMembers [] out = members.map fun m => ((rename m.1).joined, m.2.finitePart.reread) := by
    rw [rereadMembers_eq, each, Entries.putAll_nil (by simpa [Function.comp_def] using distinct), List.map_map]
    rfl
  constructor
  · intro same
    have most : (rereadMembers [] out).length ≤ out.length := by
      rw [rereadMembers_eq]
      exact (Entries.length_putAll_le _ _).trans_eq (Nat.zero_add _)
    -- As many members are read as there were, so no name has taken the place of another.
    have each := full (by rw [same] at most; omega)
    have distinct : (members.map fun m => (rename m.1).joined).Nodup := by
      have long : (rereadMembers [] out).length = out.length := by rw [same, each, List.length_map]
      rw [rereadMembers_eq] at long
      simpa [each, Function.comp_def] using Entries.nodup_of_full long
    have kept := (all distinct each).symm.trans same
    exact ⟨names kept ▸ distinct, kept⟩
  · rintro ⟨distinct, kept⟩
    rw [← names kept] at distinct
    have others : (members.map fun m => rename m.1).Nodup :=
      List.Nodup.of_map Text.joined (by simpa [Function.comp_def] using distinct)
    exact (all distinct (apart others)).trans kept

end

mutual
theorem reread_eq_iff : ∀ v : Json, reread v.finitePart = v ↔ lasts v = true
  | null | bool _ | int _ => by simp [finitePart, reread, lasts]
  | float x => by cases finite : x.isFinite <;> simp [finitePart, reread, lasts, finite]
  | str text => by simp [finitePart, reread, lasts, Text.joined_eq_iff]
  | arr items => by rw [finitePart, reread, arr.injEq, rereadItems_eq_iff items, lasts]
  | obj members => by
    have each := finitePartMembers_eq members
    have names := rereadMembers_eq_iff (fun name => name) (by rw [each, List.length_map]) (fun _ => each) fun _ => each
    rw [finitePart, reread, obj.injEq, names, eachMember_eq_iff members, lasts, Bool.and_eq_true, decide_eq_true_iff]
theorem rereadItems_eq_iff : ∀ items : List Json,
    rereadItems (finitePartItems items) = items ↔ lastsItems items = true
  | [] => by simp [finitePartItems, rereadItems, lastsItems]
  | item :: items => by
    rw [finitePartItems, rereadItems, List.cons.injEq, reread_eq_iff item, rereadItems_eq_iff items, lastsItems,
      Bool.and_eq_true]
theorem eachMember_eq_iff : ∀ members : List (Text × Json),
    (members.map fun m => (m.1.joined, m.2.finitePart.reread)) = members ↔ lastsMembers members = true
  | [] => by simp [lastsMembers]
  | (name, value) :: members => by
    rw [List.map_cons, List.cons.injEq, Prod.mk.injEq, Text.joined_eq_iff, reread_eq_iff value,
      eachMember_eq_iff members, lastsMembers, Bool.and_eq_true, Bool.and_eq_true]
end

end Json

section

variable {α : Type} {kept : α → α} {lasting : α → Bool}

theorem map_eq_iff (each : ∀ a, kept a = a ↔ lasting a = true) (l : List α) :
    l.map kept = l ↔ l.all lasting = true := by
  induction l with
  | nil => simp
  | cons a l ih => rw [List.map_cons, List.cons.injEq, each, ih, List.all_cons, Bool.and_eq_true]

theorem option_map_eq_iff (each : ∀ a, kept a = a ↔ lasting a = true) (a : Option α) :
    a.map kept = a ↔ a.all lasting = true := by
  cases a <;> simp [each]

end

namespace Members

def lasts (members : Members) : Bool :=
  (members.map Prod.fst).Nodup && members.all fun m => m.1.encodable && m.2.lasts

theorem reread_written_iff (members : Members) :
    Json.rereadMembers [] members.written = members ↔ members.lasts = true := by
  have written : members.written = Entries.putAll Text.replaced Json.finitePart [] members := rfl
  have each (m : Text × Json) : (m.1.replaced.joined, m.2.finitePart.reread) = m ↔
      (m.1.encodable && m.2.lasts) = true := by
    rw [Prod.ext_iff, Text.joined_replaced_eq_iff, Json.reread_eq_iff, Bool.and_eq_true]
  rw [Json.rereadMembers_eq_iff Text.replaced, map_eq_iff each, lasts, Bool.and_eq_true, decide_eq_true_iff]
  · exact written ▸ (Entries.length_putAll_le _ _).trans_eq (Nat.zero_add _)
  · exact fun full => Entries.putAll_nil (Entries.nodup_of_full full)
  · exact Entries.putAll_nil

end Members

namespace Node

def lasts (n : Node) : Bool :=
  n.id.lasts && n.type.lasts && n.parameterValues.lasts && n.label.all Text.lasts && n.parentId.all Text.lasts

theorem stored_eq_iff (n : Node) : n.stored = n ↔ n.lasts = true := by
  obtain ⟨id, type, position, values, label, parent⟩ := n
  simp only [stored, lasts, mk.injEq, Text.joined_eq_iff, Members.reread_written_iff,
    option_map_eq_iff Text.joined_eq_iff, Bool.and_eq_true, true_and, and_assoc]

end Node

namespace Connection

def lasts (c : Connection) : Bool :=
  c.id.lasts && c.fromNode.lasts && c.fromPort.lasts && c.toNode.lasts && c.toPort.lasts

theorem stored_eq_iff (c : Connection) : c.stored = c ↔ c.lasts = true := by
  obtain ⟨id, fromNode, fromPort, toNode, toPort⟩ := c
  simp only [stored, lasts, mk.injEq, Text.joined_eq_iff, Bool.and_eq_true, and_assoc]

end Connection

namespace Variable

def lasts (v : Variable) : Bool :=
  v.id.lasts && v.name.lasts && v.defaultValue.lasts && v.description.all Text.lasts

theorem stored_eq_iff (v : Variable) : v.stored = v ↔ v.lasts = true := by
  obtain ⟨id, name, type, value, description⟩ := v
  simp only [stored, lasts, mk.injEq, Text.joined_eq_iff, Json.reread_eq_iff, option_map_eq_iff Text.joined_eq_iff,
    Bool.and_eq_true, true_and, and_assoc]

end Variable

namespace Script

def lasts (s : Script) : Bool :=
  s.id.lasts && s.name.lasts && s.description.all Text.lasts && s.nodes.all Node.lasts &&
    s.connections.all Connection.lasts && s.vars.all Variable.lasts && s.selectedNodes.all Text.lasts &&
    s.selectedConnection.all Text.lasts

theorem stored_eq_iff (s : Script) : s.stored = s ↔ s.lasts = true := by
  obtain ⟨id, name, description, nodes, connections, vars, selected, connection⟩ := s
  simp only [stored, lasts, mk.injEq, Text.joined_eq_iff, map_eq_iff Node.stored_eq_iff,
    map_eq_iff Connection.stored_eq_iff, map_eq_iff Variable.stored_eq_iff, map_eq_iff Text.joined_eq_iff,
    option_map_eq_iff Text.joined_eq_iff, Bool.and_eq_true, and_assoc]

end Script

namespace Project

/-- Whether a project is read as it was written. -/
def lasts (p : Project) : Bool := p.scripts.all Script.lasts && p.currentScript.all Text.lasts

theorem stored_eq_iff (p : Project) : p.stored = p ↔ p.lasts = true := by
  obtain ⟨scripts, current⟩ := p
  simp only [stored, lasts, mk.injEq, map_eq_iff Script.stored_eq_iff, option_map_eq_iff Text.joined_eq_iff,
    Bool.and_eq_true]

end Project

end NodeScript
