import NodeScript.Catalog
import NodeScript.Search.Query
import NodeScript.Search.Recents
import NodeScript.Search.Score

/-!
Searching a catalog. A query with text ranks the admitted templates by score, ties in the order of
the catalog; a query without text lists the recent ones and then all others by category and label.
-/
namespace NodeScript

def sortKey (t : Template) : Text × Text := (t.category.name.lower, t.label.lower)

def keyLe (a b : Text × Text) : Bool := a.1 < b.1 || (a.1 = b.1 && a.2 ≤ b.2)

def alphabetical (templates : List Template) : List Template :=
  ((templates.map fun t => (sortKey t, t)).mergeSort fun a b => keyLe a.1 b.1).map (·.2)

def browse (templates : List Template) (recent : List Text) : List Template :=
  recent.filterMap (fun type => templates.find? (·.type = type)) ++
    alphabetical (templates.filter fun t => !recent.contains t.type)

def ranked (text : Text) (templates : List Template) : List Template :=
  (((templates.map fun t => (t.score text, t)).filter fun p => 0 < p.1).mergeSort
    fun a b => b.1 ≤ a.1).map (·.2)

def defaultLimit : Int := 20

def searchParsed (c : Catalog) (filter : Filter) (text : Text) (recents : Option Recents := none)
    (limit : Int := defaultLimit) : List Template :=
  let templates := c.templates.filter filter.admits
  upTo limit <|
    if text = "" then browse templates (recents.elim [] (·.types)) else ranked text templates

def search (c : Catalog) (query : Text) (filter : Filter := .all) (recents : Option Recents := none)
    (limit : Int := defaultLimit) : List Template :=
  let (active, text) := parseQuery query filter
  searchParsed c active text recents limit

end NodeScript
