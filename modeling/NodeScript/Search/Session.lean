import NodeScript.Search.Ranking

/-!
A search session: a query, a filter, the results they had when they were last set, and a cursor in
them that stops at both ends. The recent types belong to the session's owner and are passed in.
-/
namespace NodeScript

inductive SearchKey where
  | arrowDown | arrowUp | tab | enter | escape
  deriving DecidableEq, Repr

namespace SearchKey

def all : List SearchKey := [arrowDown, arrowUp, tab, enter, escape]

def name : SearchKey → Text
  | arrowDown => "ArrowDown"
  | arrowUp => "ArrowUp"
  | tab => "Tab"
  | enter => "Enter"
  | escape => "Escape"

def ofJson : Json → Except BadChoice SearchKey := choose "SearchKey" all name

end SearchKey

structure Session where
  query : Text := ""
  filter : Filter := .all
  cursor : Nat := 0
  results : List Template := []
  closed : Bool := false
  deriving DecidableEq, Repr, Inhabited

namespace Session

def refresh (c : Catalog) (recents : Option Recents) (s : Session) : Session :=
  { s with results := search c s.query s.filter recents, cursor := 0 }

def start (c : Catalog) (recents : Option Recents) (query : Text := "") (filter : Filter := .all) :
    Session :=
  refresh c recents { query, filter }

def setQuery (c : Catalog) (recents : Option Recents) (query : Text) (s : Session) : Session :=
  refresh c recents { s with query }

def setFilter (c : Catalog) (recents : Option Recents) (filter : Filter) (s : Session) : Session :=
  refresh c recents { s with filter }

def move (delta : Int) (s : Session) : Session :=
  { s with cursor := min ((s.cursor : Int) + delta).toNat (s.results.length - 1) }

def current? (s : Session) : Option Template := s.results[s.cursor]?

/-- The template at the cursor becomes the most recent one and ends the session. -/
def commit (recents : Option Recents) (s : Session) : Option Template × Session × Option Recents :=
  match s.current? with
  | none => (none, s, recents)
  | some t => (some t, { s with closed := true }, recents.map (·.record t.type))

def close (s : Session) : Session := { s with closed := true }

def press (key : SearchKey) (shift : Bool) (recents : Option Recents) (s : Session) :
    Option Template × Session × Option Recents :=
  match key with
  | .arrowDown => (none, s.move 1, recents)
  | .arrowUp => (none, s.move (-1), recents)
  | .tab => (none, s.move (if shift then -1 else 1), recents)
  | .enter => s.commit recents
  | .escape => (none, s.close, recents)

end Session

end NodeScript
