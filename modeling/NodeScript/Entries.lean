import NodeScript.Text

namespace NodeScript.Entries

/-- A name that is there keeps its place; a new one goes to the end. -/
def put {α : Type} : List (Text × α) → Text → α → List (Text × α)
  | [], name, value => [(name, value)]
  | (n, v) :: rest, name, value =>
    if n = name then (n, value) :: rest else (n, v) :: put rest name value

end NodeScript.Entries
