import NodeScript.Clock
import NodeScript.Http.Endpoint
import NodeScript.Http.Handler
import NodeScript.Http.Requests
import NodeScript.Program.Record
import NodeScript.Workspace.Programs
import NodeScript.Workspace.Saving
import NodeScript.Workspace.Scripts

/-!
The service: a workspace that is worked on by requests. A request is checked before the script it
names is looked up. What an endpoint announces has happened also if its reply breaks.
-/
namespace NodeScript.Http

structure Service where
  workspace : Workspace := {}
  shouldExit : Bool := false
  deriving Inhabited

structure Request where
  method : String := "POST"
  path : String
  body : String := ""
  deriving DecidableEq, Repr

def one (name : Text) (value : Json) : Json := .obj [(name, value)]

def sessionBody (s : Session) : Body :=
  { json := .obj [("query", .str s.query), ("category_filter", .str s.filter.name),
      ("cursor", .int s.cursor), ("closed", .bool s.closed), ("results", Record.toJson s.results)]
    free := Record.free s.results }

def searchFor (c : Catalog) (w : Workspace) (r : SearchRequest) : Body :=
  let found := NodeScript.search c r.query r.filter (some w.recents)
  let found := match r.limit with
    | some n => upTo n found
    | none => found
  { json := .obj [("query", .str r.query), ("results", Record.toJson found)], free := Record.free found }

def scriptAction (c : Catalog) (id : Text) (body : String) : ScriptAction → Except Reply Handler
  | .get => .ok fun w =>
    handled (part "script") { answer := (w.script id).mapError .graph, workspace := w }
  | .rename => withBody (required readName) body fun name w =>
    ended .ofNameError (fun s => Json.obj [("script_id", .str s.id), ("name", .str s.name)])
      (w.renameScript id name)
  | .duplicate => withBody (optional readMaybeName) body fun name w =>
    handled (part "script") (w.duplicateScript id (name.getD none))
  | .delete => withBody (optional readConfirmed) body fun confirmed w =>
    handled (fun d => d.toJson) (w.deleteScript id (confirmed.getD false))
  | .select => .ok fun w =>
    handled (fun s => one "current_script_id" (Json.ofText? (s.map (·.id)))) (w.selectScript id)
  | .compile => .ok fun w => handled (part "result") (w.compile c id)
  | .listing => .ok fun w =>
    handled (fun text => Json.obj [("script_id", .str id), ("listing", .str text)]) (w.listing c id)

def partAction (c : Catalog) (id : Text) (body : String) : PartAction → Except Reply Handler
  | .addNode => withBody (required NodeDraft.read) body fun draft w =>
    handled (part "node") (w.addNode c id draft)
  | .updateNode node => withBody (required NodeChange.read) body fun change w =>
    handled (part "node") (w.updateNode id node change)
  | .deleteNode node => .ok fun w =>
    handled (fun d => Json.obj [("node_id", .str node), ("outcome", d.toJson)]) (w.deleteNode c id node)
  | .connect => withBody (required Link.read) body fun link w =>
    handled (part "connection") (w.connect c id link.draft)
  | .deleteConnection connection => .ok fun w =>
    handled (fun removed => Json.obj [("connection_id", .str connection), ("status", .str "removed"),
      ("removed_connection_ids", Json.ofTexts removed)]) (w.deleteConnection c id connection)
  | .addVariable => withBody (required VariableDraft.read) body fun draft w =>
    handled (part "variable") (w.addVariable id draft)
  | .deleteVariable variableId => .ok fun w =>
    handled (fun _ => Json.obj [("variable_id", .str variableId), ("status", .str "removed")])
      (w.deleteVariable id variableId)

def editorAction (c : Catalog) (id : Text) (body : String) : EditorAction → Except Reply Handler
  | .state => .ok fun w => handled (part "state") (w.editor id)
  | .clickNode => withBody (required ClickRequest.read) body fun r w =>
    handled (part "state") (w.clickNode id r.node r.additive)
  | .clickConnection => withBody (required readConnectionId) body fun connection w =>
    handled (part "state") (w.clickConnection id connection)
  | .clickCanvas => .ok fun w => handled (part "state") (w.clickCanvas id)
  | .selectAll => .ok fun w => handled (part "state") (w.selectAll id)
  | .beginConnection => withBody (required PortRequest.read) body fun r w =>
    handled (part "state") (w.beginConnection c id r.node r.port)
  | .releaseConnection => withBody (required PortRequest.read) body fun r w =>
    handled (part "connection") (w.releaseConnection c id r.node r.port)
  | .deleteSelection => .ok fun w => handled (part "outcome") (w.deleteSelection c id)
  | .duplicateSelection => withBody (optional readOffset) body fun offset w =>
    handled (part "nodes") (w.duplicateSelection c id (offset.getD Desk.defaultOffset))
  | .moveSelection => withBody (required MoveRequest.read) body fun r w =>
    handled (part "nodes") (w.moveSelection id r.dx r.dy)
  | .renameNode => withBody (required LabelRequest.read) body fun r w =>
    handled (part "node") (w.renameNode id r.node r.label)

/-- The filter is set before the query. -/
def requery (c : Catalog) (r : QueryRequest) (s : Session) (recents : Recents) : Session :=
  let s := match r.filter with
    | some filter => s.setFilter c (some recents) filter
    | none => s
  match r.query with
  | some query => s.setQuery c (some recents) query
  | none => s

def pressKey (id : Text) (r : KeyRequest) : Handler := fun w =>
  match SearchKey.ofJson (.str r.key) with
  | .error _ => (.rejected ("Unsupported key: " ++ r.key), [], w)
  | .ok key =>
    handled sessionBody <| w.atSession id fun s recents =>
      let (_, s, more) := s.press key r.shift (some recents)
      (s, s, more.getD recents)

/-- The keys that commit and cancel are commands of the editor, whose errors are not caught. -/
def keyAction (c : Catalog) (id : Text) (r : KeyRequest) : Handler := fun w =>
  let found := w.session id
  match found.answer with
  | .error e => (.ofError e, [], found.workspace)
  | .ok _ =>
    let w := found.workspace
    if r.key = SearchKey.enter.name then
      ended .uncaught (part "node") (w.commitCommand c id none)
    else if r.key = SearchKey.escape.name then
      ended .uncaught (part "state") (w.cancelCommand id)
    else pressKey id r w

def commandAction (c : Catalog) (id : Text) (body : String) : CommandAction → Except Reply Handler
  | .opening => withBody (required OpenRequest.read) body fun r w =>
    handled sessionBody (w.openCommandSurface c id (.float r.x) (.float r.y) r.query)
  | .query => withBody (required QueryRequest.read) body fun r w =>
    handled sessionBody <| w.atSession id fun s recents =>
      let s := requery c r s recents
      (s, s, recents)
  | .key => withBody (required KeyRequest.read) body fun r => keyAction c id r
  | .commit => withBody (optional readMaybeType) body fun type w =>
    handled (part "node") (w.commitCommand c id (type.getD none))
  | .cancel => .ok fun w => handled (part "state") (w.cancelCommand id)

def scriptsJson (w : Workspace) : Json :=
  .obj [("scripts", .arr w.summaries), ("current_script_id", Json.ofText? w.project.currentScript)]

def groupJson (group : Category × List Template) : Json :=
  .obj [("category", .str group.1.name), ("templates", Record.toJson group.2)]

def groupsBody (c : Catalog) : Body :=
  { json := one "categories" (.arr (c.groups.map groupJson)), free := Record.free c.templates }

def shutdownJson : Json := .obj [("status", .str "none"), ("message", .str "Server shut down")]

def handler (c : Catalog) (clock : Clock) (body : String) : Endpoint → Except Reply Handler
  | .shutdown => .ok (look shutdownJson)
  | .ping => .ok (look (Json.obj [("message", .str "pong"), ("timestamp", .str clock.time)]))
  | .templates => .ok (look (part "templates" c.templates))
  | .categories => .ok (look (groupsBody c))
  | .template type => .ok fun w =>
    handled (part "template") { answer := (c.template type).mapError .graph, workspace := w }
  | .search => withBody (required SearchRequest.read) body fun r w => look (searchFor c w r) w
  | .createScript => withBody (required ScriptRequest.read) body fun r w =>
    ended .uncaught (part "script") (w.createScript r.name r.description)
  | .scripts => .ok fun w => look (scriptsJson w) w
  | .script action id => scriptAction c id body action
  | .part action id => partAction c id body action
  | .editor action id => editorAction c id body action
  | .command action id => commandAction c id body action
  | .saveProject => .ok fun w =>
    ended .uncaught (fun saved => one "status" (.str (if saved then "saved" else "failed")))
      (w.saveProject clock.time)
  | .loadProject => .ok fun w =>
    ended .uncaught (fun p => Json.obj [("scripts", .int p.scripts.length),
      ("current_script_id", Json.ofText? p.currentScript)]) (w.loadProject c)

namespace Service

def answer (c : Catalog) (clock : Clock) (r : Request) (s : Service) :
    Reply × List Announcement × Service :=
  match routing r.method r.path with
  | .nowhere => (.noRoute, [], s)
  | .elsewhere => (.elsewhere, [], s)
  | .wrongMethod => (.wrongMethod, [], s)
  | .page => (.page, [], s)
  | .found endpoint =>
    match handler c clock r.body endpoint with
    | .error reply => (reply.encoded, [], s)
    | .ok handler =>
      let (ending, announcements, workspace) := handler s.workspace
      (ending.reply.encoded, announcements,
        { workspace, shouldExit := s.shouldExit || decide (endpoint = .shutdown) })

end Service

end NodeScript.Http
