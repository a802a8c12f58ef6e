import NodeScript.Program
import NodeScript.Record

namespace NodeScript

namespace Argument

def toJson : Argument → Json
  | literal port value =>
    .obj [("port", .str port), ("source", .str "literal"), ("value", value.finitePart),
      ("ref_variable", .null), ("ref_port", .null), ("marshalled", .bool false)]
  | ref port holder fromPort marshalled =>
    .obj [("port", .str port), ("source", .str "ref"), ("value", .null), ("ref_variable", .str holder),
      ("ref_port", .str fromPort), ("marshalled", .bool marshalled)]

def free : Argument → List Json
  | literal _ value => [value]
  | ref .. => []

end Argument

namespace Statement

def toJson (s : Statement) : Json :=
  .obj [("index", .int s.index), ("node_id", .str s.node), ("node_type", .str s.type),
    ("context", .str s.context.name), ("kind", .str s.kind.name), ("variable", .str s.holder),
    ("args", .arr (s.args.map Argument.toJson)), ("params", .obj s.params.written),
    ("flow", .obj (Members.written (s.flow.map fun f => (f.1, Json.ofTexts f.2)))),
    ("loop_back", Json.ofTexts s.loopBack)]

def free (s : Statement) : List Json := s.args.flatMap Argument.free ++ s.params.values

end Statement

namespace Root

def toJson (r : Root) : Json :=
  let (statements, error) := match r.outcome with
    | .ok statements => (Json.arr (statements.map Statement.toJson), Json.null)
    | .error error => (Json.null, error.diagnostic.toJson)
  .obj [("event_node_id", .str r.event), ("statements", statements), ("error", error)]

def free (r : Root) : List Json :=
  match r.outcome with
  | .ok statements => statements.flatMap Statement.free
  | .error _ => []

end Root

namespace Program

def toJson (p : Program) : Json :=
  .obj [("script_id", .str p.script), ("roots", .arr (p.roots.map Root.toJson)),
    ("warnings", .arr (p.warnings.map Diagnostic.toJson)), ("ok", .bool p.ok)]

end Program

instance : Record Program where
  toJson := Program.toJson
  free p := p.roots.flatMap Root.free

end NodeScript
