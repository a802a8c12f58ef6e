import NodeScript.Record
import NodeScript.Template
import NodeScript.Validation

namespace NodeScript

def PortType.read : Json → Reader PortType := Reader.choice PortType.all PortType.name

namespace Port

def toJson (p : Port) : Json :=
  .obj [("name", .str p.name), ("type", .str p.type.name), ("loop_back", .bool p.loopBack)]

def read : Json → Reader Port := Reader.record fun members =>
  ((((Reader.of Port.mk).and (Reader.required members "name" Reader.text)).and
    (Reader.required members "type" PortType.read)).and
    (Reader.field members "loop_back" (Reader.of false) Reader.flag))

end Port

instance : Record Port where
  toJson := Port.toJson

namespace Template

def toJson (t : Template) : Json :=
  .obj [("type", .str t.type), ("category", .str t.category.name), ("context", .str t.context.name),
    ("label", .str t.label), ("description", .str t.description), ("icon", .str t.icon),
    ("input_ports", .arr (t.inputs.map Port.toJson)),
    ("output_ports", .arr (t.outputs.map Port.toJson)), ("parameters", .obj t.parameters.written),
    ("bridge", .bool t.bridge), ("loop", .bool t.loop)]

def read : Json → Reader Template := Reader.record fun members =>
  ((((((((((((Reader.of Template.mk).and (Reader.required members "type" Reader.text)).and
    (Reader.required members "category" (Reader.choice Category.all Category.name))).and
    (Reader.required members "context" (Reader.choice Context.all Context.name))).and
    (Reader.required members "label" Reader.text)).and
    (Reader.field members "description" (Reader.of "") Reader.text)).and
    (Reader.field members "icon" (Reader.of "") Reader.text)).and
    (Reader.field members "input_ports" (Reader.of []) (Reader.list Port.read))).and
    (Reader.field members "output_ports" (Reader.of []) (Reader.list Port.read))).and
    (Reader.field members "parameters" (Reader.of []) Reader.mapping)).and
    (Reader.field members "bridge" (Reader.of false) Reader.flag)).and
    (Reader.field members "loop" (Reader.of false) Reader.flag))

end Template

instance : Record Template where
  toJson := Template.toJson
  free t := t.parameters.values

end NodeScript
