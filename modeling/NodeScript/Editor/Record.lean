import NodeScript.Editor.Removal
import NodeScript.Script.Record

namespace NodeScript

namespace Editor

def dragNode? : Editor → Option Text
  | resting (.drag node _) _ => some node
  | _ => none

def dragPort? : Editor → Option Text
  | resting (.drag _ port) _ => some port
  | _ => none

def members (e : Editor) : Members :=
  [("mode", .str e.modeName), ("node_ids", Json.ofTexts e.selection.nodeIds),
   ("connection_id", Json.ofText? e.selection.connectionId?),
   ("from_node_id", Json.ofText? e.dragNode?), ("from_port", Json.ofText? e.dragPort?),
   ("command_position", (e.surface?.map fun surface => surface.position.toJson).getD .null)]

def toJson (e : Editor) : Json := .obj e.members

end Editor

instance : Record Editor where
  toJson := Editor.toJson

namespace Deletion

def toJson (deletion : Deletion) : Json :=
  .obj [("applied", .bool deletion.reason?.isNone), ("reason", Json.ofText? deletion.reason?),
    ("removed_node_ids", Json.ofTexts deletion.removal.nodes),
    ("removed_connection_ids", Json.ofTexts deletion.removal.connections)]

end Deletion

instance : Record Deletion where
  toJson := Deletion.toJson

end NodeScript
