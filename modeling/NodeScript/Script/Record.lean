import NodeScript.Script
import NodeScript.Template.Record

namespace NodeScript

namespace Position

def toJson (p : Position) : Json := .obj [("x", .float p.x), ("y", .float p.y)]

def read : Json → Reader Position := Reader.record fun members =>
  (((Reader.of Position.mk).and (Reader.field members "x" (Reader.of 0) Reader.real)).and
    (Reader.field members "y" (Reader.of 0) Reader.real))

end Position

instance : Record Position where
  toJson := Position.toJson

namespace Node

def toJson (n : Node) : Json :=
  .obj [("id", .str n.id), ("type", .str n.type), ("position", n.position.toJson),
    ("parameter_values", .obj n.parameterValues.written), ("label", Json.ofText? n.label),
    ("parent_id", Json.ofText? n.parentId)]

def read : Json → Reader Node := Reader.record fun members =>
  (((((((Reader.of Node.mk).and (Reader.field members "id" Reader.drawId Reader.text)).and
    (Reader.required members "type" Reader.text)).and
    (Reader.field members "position" (Reader.of {}) Position.read)).and
    (Reader.field members "parameter_values" (Reader.of []) Reader.mapping)).and
    (Reader.field members "label" (Reader.of none) (Reader.maybe Reader.text))).and
    (Reader.field members "parent_id" (Reader.of none) (Reader.maybe Reader.text)))

end Node

instance : Record Node where
  toJson := Node.toJson
  free n := n.parameterValues.values

namespace Connection

def toJson (c : Connection) : Json :=
  .obj [("id", .str c.id), ("from_node_id", .str c.fromNode), ("from_port", .str c.fromPort),
    ("to_node_id", .str c.toNode), ("to_port", .str c.toPort)]

def read : Json → Reader Connection := Reader.record fun members =>
  ((((((Reader.of Connection.mk).and (Reader.field members "id" Reader.drawId Reader.text)).and
    (Reader.required members "from_node_id" Reader.text)).and
    (Reader.required members "from_port" Reader.text)).and
    (Reader.required members "to_node_id" Reader.text)).and
    (Reader.required members "to_port" Reader.text))

end Connection

instance : Record Connection where
  toJson := Connection.toJson

namespace Variable

def toJson (v : Variable) : Json :=
  .obj [("id", .str v.id), ("name", .str v.name), ("type", .str v.type.name),
    ("default_value", v.defaultValue.finitePart), ("description", Json.ofText? v.description)]

def read : Json → Reader Variable := Reader.record fun members =>
  ((((((Reader.of Variable.mk).and (Reader.field members "id" Reader.drawId Reader.text)).and
    (Reader.required members "name" Reader.text)).and
    (Reader.field members "type" (Reader.of .any) PortType.read)).and
    (Reader.field members "default_value" (Reader.of .null) Reader.anything)).and
    (Reader.field members "description" (Reader.of none) (Reader.maybe Reader.text)))

end Variable

instance : Record Variable where
  toJson := Variable.toJson
  free v := [v.defaultValue]

namespace Script

def toJson (s : Script) : Json :=
  .obj [("id", .str s.id), ("name", .str s.name), ("description", Json.ofText? s.description),
    ("nodes", .arr (s.nodes.map Node.toJson)),
    ("connections", .arr (s.connections.map Connection.toJson)),
    ("variables", .arr (s.vars.map Variable.toJson)),
    ("selected_node_ids", Json.ofTexts s.selectedNodes),
    ("selected_connection_id", Json.ofText? s.selectedConnection)]

def read : Json → Reader Script := Reader.record fun members =>
  (((((((((Reader.of Script.mk).and (Reader.field members "id" Reader.drawId Reader.text)).and
    (Reader.required members "name" Reader.text)).and
    (Reader.field members "description" (Reader.of none) (Reader.maybe Reader.text))).and
    (Reader.field members "nodes" (Reader.of []) (Reader.list Node.read))).and
    (Reader.field members "connections" (Reader.of []) (Reader.list Connection.read))).and
    (Reader.field members "variables" (Reader.of []) (Reader.list Variable.read))).and
    (Reader.field members "selected_node_ids" (Reader.of []) (Reader.list Reader.text))).and
    (Reader.field members "selected_connection_id" (Reader.of none) (Reader.maybe Reader.text)))

end Script

instance : Record Script where
  toJson := Script.toJson
  free s := Record.free s.nodes ++ Record.free s.vars

namespace Project

def toJson (p : Project) : Json :=
  .obj [("scripts", .arr (p.scripts.map Script.toJson)),
    ("current_script_id", Json.ofText? p.currentScript)]

def read : Json → Reader Project := Reader.record fun members =>
  (((Reader.of Project.mk).and (Reader.field members "scripts" (Reader.of []) (Reader.list Script.read))).and
    (Reader.field members "current_script_id" (Reader.of none) (Reader.maybe Reader.text)))

end Project

instance : Record Project where
  toJson := Project.toJson
  free p := Record.free p.scripts

end NodeScript
