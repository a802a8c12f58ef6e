import NodeScript.Choice
import NodeScript.Template
import NodeScript.Text.Blank

/-!
Search queries. A filter admits the templates of a context or of some categories; a shortcut at the
head of a query stands for a filter and wins over the one that is given beside it.
-/
namespace NodeScript

inductive Filter where
  | all | host | target | events | memory | flow | vars
  deriving DecidableEq, Repr, Inhabited

namespace Filter

def every : List Filter := [all, host, target, events, memory, flow, vars]

def name : Filter → Text
  | all => "all"
  | host => "host"
  | target => "target"
  | events => "events"
  | memory => "memory"
  | flow => "flow"
  | vars => "variables"

def admits (f : Filter) (t : Template) : Bool :=
  match f with
  | all => true
  | host => t.context = .host
  | target => t.context = .target
  | events => t.category = .events
  | memory => t.category = .memory || t.category = .pointers
  | flow => t.category = .flow
  | vars => t.category = .vars

def ofJson : Json → Except BadChoice Filter := choose "CategoryFilter" every name

end Filter

def shortcuts : List (Text × Filter) :=
  [("@h", .host), ("@t", .target), ("@e", .events), ("@m", .memory), ("@f", .flow), ("@v", .vars)]

def shortcut? (query : Text) : Option (Filter × Text) :=
  shortcuts.findSome? fun s => (s.1.after? query.trim.letters).map fun rest => (s.2, Text.trim ⟨rest⟩)

def parseQuery (query : Text) (filter : Filter := .all) : Filter × Text :=
  (shortcut? query).getD (filter, query.trim)

/-- The name of the filter beside a query is looked at only if the query has no shortcut. -/
def parseQueryNamed (query : Text) (filter : Json) : Except BadChoice (Filter × Text) :=
  match shortcut? query with
  | some found => .ok found
  | none => do
    let filter ← Filter.ofJson filter
    pure (filter, query.trim)

end NodeScript
