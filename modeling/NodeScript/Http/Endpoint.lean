import NodeScript.Text

namespace NodeScript.Http

inductive ScriptAction where
  | get | rename | duplicate | delete | select | compile | listing
  deriving DecidableEq, Repr

inductive PartAction where
  | addNode | updateNode (node : Text) | deleteNode (node : Text)
  | connect | deleteConnection (connection : Text)
  | addVariable | deleteVariable (variableId : Text)
  deriving DecidableEq, Repr

inductive EditorAction where
  | state | clickNode | clickConnection | clickCanvas | selectAll | beginConnection
  | releaseConnection | deleteSelection | duplicateSelection | moveSelection | renameNode
  deriving DecidableEq, Repr

inductive CommandAction where
  | opening | query | key | commit | cancel
  deriving DecidableEq, Repr

inductive Endpoint where
  | shutdown | ping | templates | categories | template (type : Text) | search
  | createScript | scripts
  | script (action : ScriptAction) (script : Text)
  | part (action : PartAction) (script : Text)
  | editor (action : EditorAction) (script : Text)
  | command (action : CommandAction) (script : Text)
  | saveProject | loadProject
  deriving DecidableEq, Repr

namespace ScriptAction

def named : List (String × ScriptAction) :=
  [("get", get), ("rename", rename), ("duplicate", duplicate), ("delete", delete),
   ("select", select), ("compile", compile), ("listing", listing)]

end ScriptAction

namespace EditorAction

def named : List (String × EditorAction) :=
  [("state", state), ("click_node", clickNode), ("click_connection", clickConnection),
   ("click_canvas", clickCanvas), ("select_all", selectAll), ("begin_connection", beginConnection),
   ("release_connection", releaseConnection), ("delete_selection", deleteSelection),
   ("duplicate_selection", duplicateSelection), ("move_selection", moveSelection),
   ("rename_node", renameNode)]

end EditorAction

namespace CommandAction

def named : List (String × CommandAction) :=
  [("open", opening), ("query", query), ("key", key), ("commit", commit), ("cancel", cancel)]

end CommandAction

namespace PartAction

def adding : List (String × PartAction) :=
  [("nodes", addNode), ("connections", connect), ("variables", addVariable)]

def onPart? (parts action : String) (part : Text) : Option PartAction :=
  if parts = "nodes" ∧ action = "update" then some (updateNode part)
  else if parts = "nodes" ∧ action = "delete" then some (deleteNode part)
  else if parts = "connections" ∧ action = "delete" then some (deleteConnection part)
  else if parts = "variables" ∧ action = "delete" then some (deleteVariable part)
  else none

end PartAction

def betweenSlashes : List Char → List Char × List (List Char)
  | [] => ([], [])
  | c :: rest =>
    let (first, others) := betweenSlashes rest
    if c = '/' then ([], first :: others) else (c :: first, others)

def steps? (path : String) : Option (List String) :=
  match betweenSlashes path.toList with
  | ([], steps) => some (steps.map String.ofList)
  | _ => none

def word (step : String) : String :=
  match step.toList.reverse with
  | '\n' :: rest => String.ofList rest.reverse
  | _ => step

def withWord : List String → List String
  | [] => []
  | [step] => [word step]
  | step :: rest => step :: withWord rest

def wordsOf? (path : String) : Option (List String) := (steps? path).map withWord

namespace Endpoint

def single : List (List String × Endpoint) :=
  [(["shutdown"], shutdown), (["ping"], ping), (["catalog", "list"], templates),
   (["catalog", "categories"], categories), (["search"], search),
   (["scripts", "create"], createScript), (["scripts", "list"], scripts),
   (["project", "save"], saveProject), (["project", "load"], loadProject)]

def inScript? (script : Text) (group action : String) : Option Endpoint :=
  if group = "editor" then (EditorAction.named.lookup action).map fun a => editor a script
  else if group = "command" then (CommandAction.named.lookup action).map fun a => command a script
  else if action = "add" then (PartAction.adding.lookup group).map fun a => part a script
  else none

def named? : List String → Option Endpoint
  | ["catalog", "get", type] => some (template type)
  | ["scripts", action, id] => (ScriptAction.named.lookup action).map fun a => script a id
  | ["scripts", id, group, action] => inScript? id group (word action)
  | ["scripts", id, parts, action, name] => (PartAction.onPart? parts action name).map fun a => part a id
  | _ => none

def ofSteps? (steps : List String) : Option Endpoint :=
  if steps.contains "" then none else (single.lookup (withWord steps)).or (named? steps)

def at? (path : String) : Option Endpoint := (steps? path).bind ofSteps?

end Endpoint

def pages : List (List String) :=
  [["docs"], ["docs", "oauth2-redirect"], ["redoc"], ["openapi.json"]]

def isPage (path : String) : Bool := (wordsOf? path).any pages.contains

def isEventsPlace (path : String) : Bool := (wordsOf? path).any (· = ["events"])

def isPlace (path : String) : Bool := (Endpoint.at? path).isSome || isPage path

def withoutTrailing (path : String) : String :=
  String.ofList (path.toList.reverse.dropWhile (· = '/')).reverse

inductive Routing where
  | found (endpoint : Endpoint)
  | page
  | wrongMethod
  | elsewhere
  | nowhere
  deriving DecidableEq, Repr

/-- Every endpoint is posted to, and every page fetched. A path with slashes too many at its end leads
elsewhere. -/
def routing (method path : String) : Routing :=
  match Endpoint.at? path with
  | some endpoint => if method = "POST" then .found endpoint else .wrongMethod
  | none =>
    if isPage path then (if method = "GET" ∨ method = "HEAD" then .page else .wrongMethod)
    else if path.endsWith "/" && isPlace (withoutTrailing path) then .elsewhere
    else .nowhere

end NodeScript.Http
