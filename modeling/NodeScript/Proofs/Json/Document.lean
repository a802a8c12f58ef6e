import NodeScript.Proofs.Json.Strings

namespace NodeScript.Json

mutual
def reread : Json → Json
  | str text => str text.joined
  | arr items => arr (rereadItems items)
  | obj members => obj (rereadMembers [] members)
  | other => other
def rereadItems : List Json → List Json
  | [] => []
  | item :: items => reread item :: rereadItems items
def rereadMembers (before : Members) : List (Text × Json) → Members
  | [] => before
  | (name, value) :: members => rereadMembers (before.put name.joined (reread value)) members
end

mutual
/-- How many arrays and objects stand in each other. -/
def depth : Json → Nat
  | arr items => 1 + depthItems items
  | obj members => 1 + depthMembers members
  | _ => 0
def depthItems : List Json → Nat
  | [] => 0
  | item :: items => max (depth item) (depthItems items)
def depthMembers : List (Text × Json) → Nat
  | [] => 0
  | (_, value) :: members => max (depth value) (depthMembers members)
end

mutual
def steps : Json → Nat
  | arr items => 1 + stepsItems items
  | obj members => 1 + stepsMembers members
  | _ => 1
def stepsItems : List Json → Nat
  | [] => 0
  | item :: items => 1 + steps item + stepsItems items
def stepsMembers : List (Text × Json) → Nat
  | [] => 0
  | (_, value) :: members => 1 + steps value + stepsMembers members
end

variable {rest cs : List Letter} {fuel levels level : Nat}

theorem scalar_head {found : Json × List Letter} (read : scalar cs = .ok found) : ∃ c more,
    cs = .char c :: more ∧ isBlank c = false ∧ c ≠ ']' ∧ c ≠ '"' ∧ c ≠ '{' ∧ c ≠ '[' := by
  rcases cs with _ | ⟨c | half, more⟩
  · contradiction
  · refine ⟨c, more, rfl, ?_, ?_, ?_, ?_, ?_⟩
    · refine Bool.eq_false_iff.mpr fun blank => ?_
      simp only [isBlank, Bool.or_eq_true, decide_eq_true_eq, or_assoc] at blank
      rcases blank with rfl | rfl | rfl | rfl <;> contradiction
    all_goals
      rintro rfl
      contradiction
  · contradiction

theorem value_scalar {found : Json × List Letter} (read : scalar cs = .ok found) :
    value (fuel + 1) levels cs = .ok found := by
  obtain ⟨c, more, rfl, -, -, quote, brace, bracket⟩ := scalar_head read
  have first {d : Char} {tail : List Letter} (same : Letter.char c :: more = .char d :: tail) : c = d :=
    Letter.char.inj (List.cons.inj same).1
  unfold value
  split
  · exact absurd (first ‹_›) quote
  · exact absurd (first ‹_›) brace
  · exact absurd (first ‹_›) bracket
  · exact absurd (first ‹_›) brace
  · exact absurd (first ‹_›) bracket
  · exact read

theorem skipBlanks_newline (k : Nat) (cs : List Letter) :
    skipBlanks (letters (newline k) ++ cs) = skipBlanks cs := by
  have blanks : ∀ n, skipBlanks (letters (List.replicate n ' ') ++ cs) = skipBlanks cs := by
    intro n
    induction n with
    | zero => rfl
    | succ n ih => exact ih
  exact blanks (2 * k)

theorem skipBlanks_cons {c : Char} (shown : isBlank c = false) (more : List Letter) :
    skipBlanks (.char c :: more) = .char c :: more := by
  unfold skipBlanks
  rw [List.dropWhile_cons_of_neg (by simp [Letter.is, shown])]

theorem stops_newline (k : Nat) (cs : List Letter) : Stops goesOn (letters (newline k) ++ cs) :=
  stops_cons '\n' (by decide) _

def Begins (cs : List Letter) : Prop := ∃ c more, cs = .char c :: more ∧ isBlank c = false ∧ c ≠ ']'

theorem Begins.skipBlanks (begins : Begins cs) : skipBlanks cs = cs := by
  obtain ⟨c, more, rfl, shown, -⟩ := begins
  exact skipBlanks_cons shown more

theorem Begins.append (begins : Begins cs) (rest : List Letter) : Begins (cs ++ rest) := by
  obtain ⟨c, more, rfl, shown, other⟩ := begins
  exact ⟨c, more ++ rest, rfl, shown, other⟩

theorem begins_indented (v : Json) (level : Nat) (short : complete v = true) : Begins (letters (indented level v)) := by
  have of_scalar {found : Json × List Letter} (read : scalar (letters (indented level v) ++ []) = .ok found) :
      Begins (letters (indented level v)) := by
    obtain ⟨c, more, same, shown, other, -⟩ := scalar_head read
    exact ⟨c, more, (List.append_nil _).symm.trans same, shown, other⟩
  cases v with
  | null => exact ⟨_, _, rfl, by decide, by decide⟩
  | bool b => cases b <;> exact ⟨_, _, rfl, by decide, by decide⟩
  | int n => exact of_scalar (scalar_int n (by simpa [complete] using short) stops_nil)
  | float x => exact of_scalar (scalar_float x stops_nil)
  | str text => exact ⟨_, _, rfl, by decide, by decide⟩
  | arr items => cases items <;> exact ⟨_, _, rfl, by decide, by decide⟩
  | obj members => cases members <;> exact ⟨_, _, rfl, by decide, by decide⟩

section

variable {after : List Letter} {found : Json}

theorem value_quote {text : Text} (read : stringAfterQuote cs = .ok (text, rest)) :
    value (fuel + 1) levels (.char '"' :: cs) = .ok (str text, rest) := by
  rw [value]
  rw [read]
  rfl

theorem value_array {read : List Json} (begins : Begins cs) (k : Nat)
    (inside : items fuel levels cs = .ok (read, rest)) :
    value (fuel + 1) (levels + 1) (.char '[' :: (letters (newline k) ++ cs)) = .ok (arr read, rest) := by
  rw [value]
  rw [skipBlanks_newline, begins.skipBlanks]
  obtain ⟨c, more, rfl, -, other⟩ := begins
  split
  · exact absurd (Letter.char.inj (List.cons.inj ‹_›).1) other
  · rw [inside]
    rfl

theorem value_object {read : Members} (k : Nat)
    (inside : members fuel levels [] (.char '"' :: cs) = .ok (read, rest)) :
    value (fuel + 1) (levels + 1) (.char '\x7b' :: (letters (newline k) ++ .char '"' :: cs)) =
      .ok (obj read, rest) := by
  rw [value]
  rw [skipBlanks_newline, skipBlanks_cons (by decide)]
  change (members fuel levels [] (.char '"' :: cs) >>= fun found => pure (obj found.1, found.2)) = _
  rw [inside]
  rfl

theorem items_last (k : Nat) (first : value fuel levels cs = .ok (found, letters (newline k) ++ .char ']' :: rest)) :
    items (fuel + 1) levels cs = .ok ([found], rest) := by
  have last : skipBlanks (letters (newline k) ++ .char ']' :: rest) = .char ']' :: rest := by
    rw [skipBlanks_newline, skipBlanks_cons (by decide)]
  simp only [items, first, bind, Except.bind, last]
  rfl

theorem items_more {more : List Json} (k : Nat) (begins : Begins after)
    (first : value fuel levels cs = .ok (found, .char ',' :: (letters (newline k) ++ after)))
    (others : items fuel levels after = .ok (more, rest)) :
    items (fuel + 1) levels cs = .ok (found :: more, rest) := by
  have comma := skipBlanks_cons (c := ',') (by decide) (letters (newline k) ++ after)
  have next : skipBlanks (letters (newline k) ++ after) = after := by
    rw [skipBlanks_newline, begins.skipBlanks]
  simp only [items, first, bind, Except.bind, comma, next, others]
  rfl

theorem members_value {name : Text} {before : Members} (begins : Begins cs)
    (first : value fuel levels cs = .ok (found, after)) :
    members (fuel + 1) levels before (.char '"' :: body name.letters (.char ':' :: .char ' ' :: cs)) =
      (match skipBlanks after with
        | .char '\x7d' :: rest => .ok (before.put name.joined found, rest)
        | .char ',' :: rest => members fuel levels (before.put name.joined found) (skipBlanks rest)
        | rest => faultAt rest) := by
  have colon := skipBlanks_cons (c := ':') (by decide) (.char ' ' :: cs)
  have blank : skipBlanks (.char ' ' :: cs) = cs := begins.skipBlanks
  simp only [members, stringAfterQuote_body, bind, Except.bind, colon, blank, first]
  rfl

end

def itemsText (level : Nat) : List Json → List Char
  | [] => []
  | item :: items => indented level item ++ indentedItems level items

def membersText (level : Nat) : List (Text × Json) → List Char
  | [] => []
  | (name, value) :: members =>
    quote isPlainAscii name ++ ':' :: ' ' :: (indented level value ++ indentedMembers level members)

section

variable (tail : List Letter)

theorem letters_array (item : Json) (items : List Json) :
    letters (indented level (arr (item :: items))) ++ tail =
      .char '[' :: (letters (newline (level + 1)) ++ (letters (itemsText (level + 1) (item :: items)) ++
        (letters (newline level) ++ .char ']' :: tail))) := by
  simp [indented, itemsText]

theorem letters_object (member : Text × Json) (members : List (Text × Json)) :
    letters (indented level (obj (member :: members))) ++ tail =
      .char '\x7b' :: (letters (newline (level + 1)) ++ (letters (membersText (level + 1) (member :: members)) ++
        (letters (newline level) ++ .char '\x7d' :: tail))) := by
  simp [indented, membersText]

theorem letters_items (item next : Json) (items : List Json) :
    letters (itemsText level (item :: next :: items)) ++ tail =
      letters (indented level item) ++
        .char ',' :: (letters (newline level) ++ (letters (itemsText level (next :: items)) ++ tail)) := by
  simp [indentedItems, itemsText]

theorem letters_member (name : Text) (value : Json) (members : List (Text × Json)) :
    letters (membersText level ((name, value) :: members)) ++ tail =
      .char '"' :: body name.letters (.char ':' :: .char ' ' ::
        (letters (indented level value) ++ (letters (indentedMembers level members) ++ tail))) := by
  rw [membersText, letters_append, List.append_assoc, letters_quote]
  simp

theorem letters_members (member : Text × Json) (members : List (Text × Json)) :
    letters (indentedMembers level (member :: members)) ++ tail =
      .char ',' :: (letters (newline level) ++ (letters (membersText level (member :: members)) ++ tail)) := by
  simp [indentedMembers, membersText]

end

theorem steps_pos (v : Json) : 0 < steps v := by
  cases v <;> simp [steps]

-- The induction follows the value. A list or an object takes one step of the reading and one of the levels,
-- and every item or member one more step; what comes after an item never goes on with a number.
mutual
theorem value_indented : ∀ (v : Json) (level fuel levels : Nat) (rest : List Letter), complete v = true →
    depth v ≤ levels → steps v ≤ fuel → Stops goesOn rest →
    value fuel levels (letters (indented level v) ++ rest) = .ok (reread v, rest)
  | v, _, 0, _, _, _, _, enough, _ => absurd (steps_pos v) (by omega)
  | null, level, fuel + 1, levels, rest, _, _, _, _ => value_scalar rfl
  | bool b, level, fuel + 1, levels, rest, _, _, _, _ => by
    cases b <;> exact value_scalar rfl
  | int n, level, fuel + 1, levels, rest, short, _, _, stops =>
    value_scalar (scalar_int n (by simpa [complete] using short) stops)
  | float x, level, fuel + 1, levels, rest, _, _, _, stops => value_scalar (scalar_float x stops)
  | str text, level, fuel + 1, levels, rest, _, _, _, _ => by
    rw [indented, letters_quote]
    exact value_quote (stringAfterQuote_body text)
  | arr items, level, fuel + 1, 0, rest, _, within, _, _ => by
    rw [depth] at within
    omega
  | obj members, level, fuel + 1, 0, rest, _, within, _, _ => by
    rw [depth] at within
    omega
  | arr [], level, fuel + 1, levels + 1, rest, _, _, _, _ => rfl
  | arr (item :: items), level, fuel + 1, levels + 1, rest, short, within, enough, _ => by
    simp only [complete, depth, steps] at short within enough
    have read := items_indented (item :: items) level (level + 1) fuel levels rest (List.cons_ne_nil _ _) short
      (by omega) (by omega)
    have begins : Begins (letters (itemsText (level + 1) (item :: items))) := by
      rw [itemsText, letters_append]
      exact (begins_indented item _ (Bool.and_eq_true_iff.mp short).1).append _
    rw [letters_array]
    exact value_array (begins.append _) _ read
  | obj [], level, fuel + 1, levels + 1, rest, _, _, _, _ => rfl
  | obj ((name, a) :: members), level, fuel + 1, levels + 1, rest, short, within, enough, _ => by
    simp only [complete, depth, steps] at short within enough
    have read := members_indented ((name, a) :: members) level (level + 1) fuel levels [] rest
      (List.cons_ne_nil _ _) short (by omega) (by omega)
    rw [letters_member] at read
    rw [letters_object, letters_member]
    exact value_object _ read
theorem items_indented : ∀ (as : List Json) (outer level fuel levels : Nat) (rest : List Letter), as ≠ [] →
    completeItems as = true → depthItems as ≤ levels → stepsItems as ≤ fuel →
    items fuel levels (letters (itemsText level as) ++ (letters (newline outer) ++ .char ']' :: rest)) =
      .ok (rereadItems as, rest)
  | [], _, _, _, _, _, used, _, _, _ => absurd rfl used
  | a :: as, _, _, 0, _, _, _, _, _, enough => by
    simp [stepsItems] at enough
  | [a], outer, level, fuel + 1, levels, rest, _, short, within, enough => by
    simp only [completeItems, depthItems, stepsItems, Bool.and_eq_true] at short within enough
    have first := value_indented a level fuel levels (letters (newline outer) ++ .char ']' :: rest) short.1
      (by omega) (by omega) (stops_newline _ _)
    rw [itemsText, indentedItems, List.append_nil]
    exact items_last outer first
  | a :: b :: as, outer, level, fuel + 1, levels, rest, _, short, within, enough => by
    rw [completeItems, Bool.and_eq_true] at short
    simp only [depthItems, stepsItems] at within enough
    have others := items_indented (b :: as) outer level fuel levels rest (List.cons_ne_nil _ _) short.2
      (by simp only [depthItems]; omega) (by simp only [stepsItems]; omega)
    have begins : Begins (letters (itemsText level (b :: as))) := by
      rw [itemsText, letters_append]
      exact (begins_indented b _ (Bool.and_eq_true_iff.mp short.2).1).append _
    have first := value_indented a level fuel levels _ short.1 (by omega) (by omega)
      (stops_cons ',' (by decide) (letters (newline level) ++ (letters (itemsText level (b :: as)) ++
        (letters (newline outer) ++ .char ']' :: rest))))
    rw [letters_items]
    exact items_more level (begins.append _) first others
theorem members_indented : ∀ (as : List (Text × Json)) (outer level fuel levels : Nat) (before : Members)
    (rest : List Letter), as ≠ [] → completeMembers as = true → depthMembers as ≤ levels →
    stepsMembers as ≤ fuel →
    members fuel levels before (letters (membersText level as) ++ (letters (newline outer) ++ .char '\x7d' :: rest)) =
      .ok (rereadMembers before as, rest)
  | [], _, _, _, _, _, _, used, _, _, _ => absurd rfl used
  | _ :: _, _, _, 0, _, _, _, _, _, _, enough => by
    simp [stepsMembers] at enough
  | [(name, a)], outer, level, fuel + 1, levels, before, rest, _, short, within, enough => by
    simp only [completeMembers, depthMembers, stepsMembers, Bool.and_eq_true] at short within enough
    have first := value_indented a level fuel levels (letters (newline outer) ++ .char '\x7d' :: rest) short.1
      (by omega) (by omega) (stops_newline _ _)
    rw [letters_member, indentedMembers, letters_nil, List.nil_append,
      members_value ((begins_indented a level short.1).append _) first, skipBlanks_newline,
      skipBlanks_cons (by decide)]
    rfl
  | (name, a) :: (other, b) :: as, outer, level, fuel + 1, levels, before, rest, _, short, within, enough => by
    rw [completeMembers, Bool.and_eq_true] at short
    simp only [depthMembers, stepsMembers] at within enough
    have others := members_indented ((other, b) :: as) outer level fuel levels
      (before.put name.joined (reread a)) rest (List.cons_ne_nil _ _) short.2
      (by simp only [depthMembers]; omega) (by simp only [stepsMembers]; omega)
    have first := value_indented a level fuel levels _ short.1 (by omega) (by omega)
      (stops_cons ',' (by decide) (letters (newline level) ++ (letters (membersText level ((other, b) :: as)) ++
        (letters (newline outer) ++ .char '\x7d' :: rest))))
    rw [letters_member, letters_members, members_value ((begins_indented a level short.1).append _) first,
      skipBlanks_cons (by decide)]
    rw [letters_member] at others ⊢
    refine (congrArg (members fuel levels _) ?_).trans others
    exact (skipBlanks_newline level _).trans (skipBlanks_cons (by decide) _)
end

theorem length_indented (v : Json) (level : Nat) (short : complete v = true) : 0 < (indented level v).length := by
  obtain ⟨c, more, same, -⟩ := begins_indented v level short
  have := congrArg List.length same
  rw [letters, List.length_map, List.length_cons] at this
  omega

-- A value is read in no more than two steps for each of its characters.
mutual
theorem steps_le : ∀ (v : Json) (level : Nat), complete v = true → steps v ≤ 2 * (indented level v).length
  | null, level, short | bool _, level, short | int _, level, short | float _, level, short
  | str _, level, short => by
    have := length_indented _ level short
    simp only [steps]
    omega
  | arr [], _, _ => by simp [steps, stepsItems, indented]
  | arr (item :: items), level, short => by
    simp only [complete, completeItems, Bool.and_eq_true] at short
    have := steps_le item (level + 1) short.1
    have := stepsItems_le items (level + 1) short.2
    simp only [steps, stepsItems, indented, List.length_append, List.length_cons]
    omega
  | obj [], _, _ => by simp [steps, stepsMembers, indented]
  | obj ((name, value) :: members), level, short => by
    simp only [complete, completeMembers, Bool.and_eq_true] at short
    have := steps_le value (level + 1) short.1
    have := stepsMembers_le members (level + 1) short.2
    simp only [steps, stepsMembers, indented, List.length_append, List.length_cons]
    omega
theorem stepsItems_le : ∀ (as : List Json) (level : Nat), completeItems as = true →
    stepsItems as ≤ 2 * (indentedItems level as).length
  | [], _, _ => by simp [stepsItems]
  | item :: items, level, short => by
    rw [completeItems, Bool.and_eq_true] at short
    have := steps_le item level short.1
    have := stepsItems_le items level short.2
    simp only [stepsItems, indentedItems, List.length_append, List.length_cons]
    omega
theorem stepsMembers_le : ∀ (as : List (Text × Json)) (level : Nat), completeMembers as = true →
    stepsMembers as ≤ 2 * (indentedMembers level as).length
  | [], _, _ => by simp [stepsMembers]
  | (name, value) :: members, level, short => by
    rw [completeMembers, Bool.and_eq_true] at short
    have := steps_le value level short.1
    have := stepsMembers_le members level short.2
    simp only [stepsMembers, indentedMembers, List.length_append, List.length_cons]
    omega
end

/-- A document written to its end is read, if it has no more levels than are read. -/
theorem read_document (v : Json) (short : complete v = true) (within : depth v ≤ nestingLimit) :
    Json.read v.document = .ok (reread v) := by
  have begins := begins_indented v 0 short
  have enough : steps v ≤ 2 * (letters (indented 0 v)).length + 2 := by
    have := steps_le v 0 short
    rw [letters, List.length_map]
    omega
  have found := value_indented v 0 (2 * (letters (indented 0 v)).length + 2) nestingLimit [] short within enough stops_nil
  have text : (Text.ofString v.document).letters = letters (indented 0 v) := by
    simp [Text.ofString, Text.ofChars, document, letters]
  rw [List.append_nil] at found
  rw [Json.read, text, wholeText, begins.skipBlanks, found]
  rfl

end NodeScript.Json
