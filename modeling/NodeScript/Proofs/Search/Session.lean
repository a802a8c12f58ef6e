import Mathlib.Data.List.DropRight
import NodeScript.Proofs.Search.Ranking
import NodeScript.Proofs.Search.Recents
import NodeScript.Search.Session

/-!
Runs of a search session. The results are those of the last search, which was made with the recent
types there were then; the cursor is where the moves since then lead when each of them is stopped at
the ends of the results; and what is committed is the template at the cursor, which becomes the most
recent one. The recent types may change meanwhile: the session shares them with its owner.
-/
namespace NodeScript

/-- What can be done with a session, and with the recent types beside it. -/
inductive SessionStep where
  | setQuery (query : Text)
  | setFilter (filter : Filter)
  | refresh
  | move (delta : Int)
  | press (key : SearchKey) (shift : Bool)
  | commit
  | close
  | elsewhere (step : RecentsStep)

namespace SessionStep

def query? : SessionStep → Option Text
  | .setQuery query => some query
  | _ => none

def filter? : SessionStep → Option Filter
  | .setFilter filter => some filter
  | _ => none

def searches : SessionStep → Bool
  | .setQuery _ | .setFilter _ | .refresh => true
  | _ => false

def delta? : SessionStep → Option Int
  | .move delta => some delta
  | .press .arrowDown _ => some 1
  | .press .arrowUp _ => some (-1)
  | .press .tab shift => some (if shift then -1 else 1)
  | _ => none

def commits : SessionStep → Bool
  | .commit | .press .enter _ => true
  | _ => false

theorem keeps_search {step : SessionStep} (still : step.searches = false) :
    step.query? = none ∧ step.filter? = none := by
  cases step with
  | setQuery | setFilter => cases still
  | _ => exact ⟨rfl, rfl⟩

end SessionStep

/-- Where a move leads among so many results: to the nearest place there is, and to 0 if there is none. -/
def stopped (results : Nat) (cursor delta : Int) : Int := max 0 (min (cursor + delta) (results - 1))

/-- The steps up to the last one that searched. -/
def upToSearch (steps : List SessionStep) : List SessionStep := steps.rdropWhile (!·.searches)

/-- The moves after the last search. -/
def movesSince (steps : List SessionStep) : List Int :=
  (steps.rtakeWhile (!·.searches)).filterMap SessionStep.delta?

/-- A session, and the recent types it was opened with, if any. -/
structure SharedSession where
  session : Session
  recents : Option Recents

namespace SharedSession

def start (c : Catalog) (recents : Option Recents) (query : Text) (filter : Filter) : SharedSession :=
  ⟨.start c recents query filter, recents⟩

/-- The template that a step answers with, and what it leaves. -/
def perform (c : Catalog) (s : SharedSession) : SessionStep → Option Template × SharedSession
  | .setQuery query => (none, { s with session := s.session.setQuery c s.recents query })
  | .setFilter filter => (none, { s with session := s.session.setFilter c s.recents filter })
  | .refresh => (none, { s with session := s.session.refresh c s.recents })
  | .move delta => (none, { s with session := s.session.move delta })
  | .press key shift =>
    let (answer, session, recents) := s.session.press key shift s.recents
    (answer, ⟨session, recents⟩)
  | .commit =>
    let (answer, session, recents) := s.session.commit s.recents
    (answer, ⟨session, recents⟩)
  | .close => (none, { s with session := s.session.close })
  | .elsewhere step => (none, { s with recents := s.recents.map (·.after step) })

def run (c : Catalog) (s : SharedSession) (steps : List SessionStep) : SharedSession :=
  steps.foldl (fun s step => (s.perform c step).2) s

/-- What a step does to a session. -/
structure Turns (c : Catalog) (s t : SharedSession) (step : SessionStep) : Prop where
  query : t.session.query = step.query?.getD s.session.query
  filter : t.session.filter = step.filter?.getD s.session.filter
  results : t.session.results =
    if step.searches then search c t.session.query t.session.filter s.recents else s.session.results
  cursor : (t.session.cursor : Int) =
    if step.searches then 0
    else step.delta?.elim (s.session.cursor : Int) (stopped s.session.results.length s.session.cursor)
  recents : step.searches = true → t.recents = s.recents

section

variable {c : Catalog} {s : SharedSession}

theorem move_cursor (delta : Int) (s : Session) :
    ((s.move delta).cursor : Int) = stopped s.results.length s.cursor delta := by
  simp only [Session.move, stopped]
  omega

theorem run_append (c : Catalog) (s : SharedSession) (steps : List SessionStep) (step : SessionStep) :
    s.run c (steps ++ [step]) = ((s.run c steps).perform c step).2 := List.foldl_concat ..

theorem commit_session (recents : Option Recents) (s : Session) :
    s.commit recents = (s.current?, { s with closed := s.closed || s.current?.isSome },
      s.current?.elim recents fun t => recents.map (·.record t.type)) := by
  unfold Session.commit
  split
  · rename_i none
    simp [none]
  · rename_i t some
    simp [some]

theorem perform_commits {step : SessionStep} (commits : step.commits = true) :
    s.perform c step = (s.session.current?,
      { session := { s.session with closed := s.session.closed || s.session.current?.isSome }
        recents := s.session.current?.elim s.recents fun t => s.recents.map (·.record t.type) }) := by
  have same : s.perform c step = s.perform c .commit := by
    cases step with
    | commit => rfl
    | press key shift => cases key <;> first | rfl | cases commits
    | _ => cases commits
  rw [same]
  simp only [perform, commit_session]

theorem perform_turns (c : Catalog) (s : SharedSession) (step : SessionStep) :
    Turns c s (s.perform c step).2 step := by
  cases step with
  | setQuery | setFilter | refresh => exact ⟨rfl, rfl, rfl, rfl, fun _ => rfl⟩
  | move delta => exact ⟨rfl, rfl, rfl, move_cursor delta s.session, nofun⟩
  | commit =>
      rw [perform_commits rfl]
      exact ⟨rfl, rfl, rfl, rfl, nofun⟩
  | close | elsewhere => exact ⟨rfl, rfl, rfl, rfl, nofun⟩
  | press key shift =>
      cases key with
      | arrowDown | arrowUp | tab => exact ⟨rfl, rfl, rfl, move_cursor _ s.session, nofun⟩
      | enter =>
          rw [perform_commits rfl]
          exact ⟨rfl, rfl, rfl, rfl, nofun⟩
      | escape => exact ⟨rfl, rfl, rfl, rfl, nofun⟩

theorem upToSearch_concat (steps : List SessionStep) (step : SessionStep) :
    upToSearch (steps ++ [step]) = if step.searches then steps ++ [step] else upToSearch steps := by
  rw [upToSearch, List.rdropWhile_concat]
  cases step.searches <;> rfl

theorem movesSince_concat (steps : List SessionStep) (step : SessionStep) :
    movesSince (steps ++ [step]) =
      if step.searches then [] else movesSince steps ++ step.delta?.toList := by
  rw [movesSince, List.rtakeWhile_concat]
  cases step.searches with
  | true => rfl
  | false => cases moved : step.delta? <;> simp [movesSince, moved]

/-- What a run has made of a session. -/
structure Shows (c : Catalog) (first : SharedSession) (steps : List SessionStep) (s : SharedSession) :
    Prop where
  query : s.session.query = (steps.filterMap SessionStep.query?).getLastD first.session.query
  filter : s.session.filter = (steps.filterMap SessionStep.filter?).getLastD first.session.filter
  results : s.session.results =
    search c s.session.query s.session.filter (first.run c (upToSearch steps)).recents
  cursor : (s.session.cursor : Int) = (movesSince steps).foldl (stopped s.session.results.length) 0

theorem getLastD_filterMap {α β : Type} (f : α → Option β) (items : List α) (item : α) (first : β) :
    ((items ++ [item]).filterMap f).getLastD first = (f item).getD ((items.filterMap f).getLastD first) := by
  cases found : f item <;> simp [found]

theorem run_shows (c : Catalog) (recents : Option Recents) (query : Text) (filter : Filter)
    (steps : List SessionStep) :
    Shows c (start c recents query filter) steps ((start c recents query filter).run c steps) := by
  -- By the last step: one that searches begins anew, and any other leaves the results as they are.
  induction steps using List.reverseRecOn with
  | nil => exact ⟨rfl, rfl, rfl, rfl⟩
  | append_singleton steps step ih =>
      have turns := perform_turns c ((start c recents query filter).run c steps) step
      rw [← run_append] at turns
      refine ⟨?_, ?_, ?_, ?_⟩
      · rw [turns.query, ih.query, getLastD_filterMap]
      · rw [turns.filter, ih.filter, getLastD_filterMap]
      · rw [upToSearch_concat]
        cases searched : step.searches with
        | true => rw [turns.results, if_pos searched, if_pos rfl, turns.recents searched]
        | false =>
            obtain ⟨query, filter⟩ := SessionStep.keeps_search searched
            rw [turns.query, turns.filter, query, filter, turns.results, searched]
            exact ih.results
      · rw [turns.cursor, movesSince_concat]
        cases searched : step.searches with
        | true => rfl
        | false =>
            have results := turns.results
            simp only [searched, Bool.false_eq_true, if_false] at results ⊢
            rw [results, List.foldl_append, ← ih.cursor]
            cases step.delta? <;> rfl

theorem stopped_within (results : Nat) (cursor delta : Int) :
    stopped results cursor delta = 0 ∨ stopped results cursor delta < results := by
  simp only [stopped]
  omega

/-- A move that is stopped leads to a place there is, so all of them do. -/
theorem foldl_stopped_within (results : Nat) (moves : List Int) :
    moves.foldl (stopped results) 0 = 0 ∨ moves.foldl (stopped results) 0 < results := by
  cases moves using List.reverseRecOn with
  | nil => exact .inl rfl
  | append_singleton moves delta =>
      rw [List.foldl_concat]
      exact stopped_within ..

theorem Shows.within {first : SharedSession} {steps : List SessionStep} (shows : Shows c first steps s) :
    (s.session.results = [] → s.session.cursor = 0) ∧
      (s.session.results ≠ [] → s.session.cursor < s.session.results.length) := by
  have bounds := foldl_stopped_within s.session.results.length (movesSince steps)
  rw [← shows.cursor] at bounds
  refine ⟨fun none => ?_, fun some => ?_⟩
  · rw [none, List.length_nil] at bounds
    omega
  · have long := List.length_pos_iff.mpr some
    omega

theorem Shows.current {first : SharedSession} {steps : List SessionStep} (shows : Shows c first steps s) :
    s.session.current? = none ↔ s.session.results = [] := by
  rw [Session.current?, List.getElem?_eq_none_iff]
  constructor
  · intro past
    by_contra some
    exact absurd (shows.within.2 some) (Nat.not_lt.mpr past)
  · intro none
    simp [none]

theorem record_first {r : Recents} (room : 1 ≤ r.maxSize) (type : Text) :
    (r.record type).types.head? = some type ∧ (r.record type).types.tail.Sublist r.types := by
  obtain ⟨n, size⟩ : ∃ n : Nat, r.maxSize = (n + 1 : Nat) := ⟨r.maxSize.toNat - 1, by omega⟩
  have types : (r.record type).types = type :: (r.types.filter (· ≠ type)).take n := by
    rw [Recents.record, size, upTo_natCast, List.take_succ_cons]
  rw [types]
  exact ⟨rfl, (List.take_sublist ..).trans List.filter_sublist⟩

end

/-- After every run a session shows what was found for its query and filter, which are the last ones that were
set, with the recent types there were at the last search. Its cursor is where the moves since then lead when each
is stopped at the ends, so it is at a result if there is one. A commit answers with the template there and ends
the session; the type of the template comes first among the recent ones, if there is room, and nothing else
changes. -/
theorem run_follows (c : Catalog) (recents : Option Recents) (query : Text) (filter : Filter)
    (steps : List SessionStep) :
    let first := start c recents query filter
    let s := first.run c steps
    let found := s.session.results
    (s.session.query = (steps.filterMap SessionStep.query?).getLastD query ∧
      s.session.filter = (steps.filterMap SessionStep.filter?).getLastD filter ∧
      found = search c s.session.query s.session.filter (first.run c (upToSearch steps)).recents) ∧
    ((found = [] → s.session.cursor = 0) ∧ (found ≠ [] → s.session.cursor < found.length) ∧
      (s.session.current? = none ↔ found = []) ∧
      (s.session.cursor : Int) = (movesSince steps).foldl (stopped found.length) 0) ∧
    ∀ step, step.commits = true →
      let answer := (s.perform c step).1
      let t := (s.perform c step).2
      answer = found[s.session.cursor]? ∧
      t.session = { s.session with closed := s.session.closed || answer.isSome } ∧
      (answer = none ∨ s.recents = none → t.recents = s.recents) ∧
      ∀ template r, answer = some template → s.recents = some r → 1 ≤ r.maxSize →
        ∃ later, t.recents = some later ∧
          later.types.head? = some template.type ∧ later.types.tail.Sublist r.types := by
  intro first s found
  have shows : Shows c first steps s := run_shows c recents query filter steps
  refine ⟨⟨shows.query, shows.filter, shows.results⟩,
    ⟨shows.within.1, shows.within.2, shows.current, shows.cursor⟩, ?_⟩
  intro step commits
  rw [perform_commits commits]
  intro answer t
  refine ⟨rfl, rfl, ?_, ?_⟩
  · rintro (none | none)
    · exact congrArg (Option.elim · s.recents _) none
    · cases held : s.session.current? <;> simp [t, held, none]
  · intro template r chosen listed room
    refine ⟨r.record template.type, ?_, record_first room template.type⟩
    have held : s.session.current? = some template := chosen
    simp [t, held, listed]

/-- The first move is among the results of before the query was set. The move by 7 is stopped at the last of
five results. -/
def hurried : List SessionStep :=
  [.move 4, .setQuery "lo", .move 7, .elsewhere (.record "delay"), .press .tab true]

theorem run_follows_hurried :
    let s := (start loopsCatalog (some { maxSize := 2 }) "" .all).run loopsCatalog hurried
    s.session.query = "lo" ∧ s.session.cursor = 3 ∧ SessionStep.commits (.press .enter false) = true ∧
      ((s.perform loopsCatalog (.press .enter false)).1.map (·.type)) = some ("slot" : Text) ∧
      ∃ later, (s.perform loopsCatalog (.press .enter false)).2.recents = some later ∧
        later.types.head? = some ("slot" : Text) := by
  intro s
  obtain ⟨⟨query, filter, results⟩, ⟨-, -, -, cursor⟩, commits⟩ :=
    run_follows loopsCatalog (some { maxSize := 2 }) "" .all hurried
  obtain ⟨answer, -, -, first⟩ := commits (.press .enter false) rfl
  have shared : ((start loopsCatalog (some { maxSize := 2 }) "" .all).run loopsCatalog
      (upToSearch hurried)).recents = some { maxSize := 2 } := rfl
  have found : searchParsed loopsCatalog .all "lo" (some { maxSize := 2 }) =
      [1, 2, 3, 0, 4].filterMap (loopsCatalog.templates[·]?) :=
    (searchParsed_ranks (by decide) (by decide)).unique (by decide +kernel)
  have types : s.session.results.map (·.type) = [("loop" : Text), "lock", "log", "slot", "delay"] := by
    rw [results, query, filter, shared]
    exact congrArg (List.map (·.type)) found
  have length : s.session.results.length = 5 := by
    rw [← List.length_map, types]
    rfl
  have moves : movesSince hurried = [7, -1] := rfl
  have place : s.session.cursor = 3 := by
    rw [length, moves] at cursor
    exact Int.ofNat_inj.mp cursor
  have slot : (s.perform loopsCatalog (.press .enter false)).1.map (·.type) = some ("slot" : Text) := by
    rw [answer, ← List.getElem?_map, types, place]
    rfl
  obtain ⟨template, chosen, named⟩ := Option.map_eq_some_iff.mp slot
  obtain ⟨later, listed, head, -⟩ := first template { maxSize := 2, types := ["delay"] } chosen rfl (by decide)
  exact ⟨query, place, rfl, slot, later, listed, named ▸ head⟩

end SharedSession

end NodeScript
