import NodeScript.Json.Display
import NodeScript.Program

namespace NodeScript

namespace Argument

def listed : Argument → Text
  | literal port value => port ++ "=" ++ value.display
  | ref port holder fromPort marshalled =>
    port ++ "=" ++ (if marshalled then "~" else "") ++ holder ++ "." ++ fromPort

end Argument

namespace Statement

def flowListed (flow : Text × List Text) : Text :=
  if flow.2 = [] then "" else " " ++ flow.1 ++ "->" ++ Text.joinWith "," flow.2

def listed (s : Statement) : Text :=
  Decimal.padded 3 s.index ++ " [" ++ s.context.name ++ "] " ++ s.kind.name ++ " " ++ s.holder ++ " = " ++
    s.type ++ "(" ++ Text.joinWith ", " (s.args.map Argument.listed) ++ ")" ++
    Text.join (s.flow.map flowListed) ++
    (if s.loopBack = [] then ("" : Text) else " loop<-" ++ Text.joinWith "," s.loopBack)

end Statement

namespace Root

def listed (r : Root) : Text :=
  "\n## root " ++ r.event ++ "\n" ++
    match r.outcome with
    | .error error =>
      let d := error.diagnostic
      "!! " ++ d.kind.name ++ ": " ++ d.message ++ "\n"
    | .ok statements => Text.join (statements.map fun s => s.listed ++ "\n")

end Root

namespace Program

def warningListed (d : Diagnostic) : Text :=
  "\nwarning " ++ d.kind.name ++ ": " ++ Text.joinWith ", " d.nodes ++ "\n"

def listing (p : Program) (name : Option Text := none) : Text :=
  "# script " ++ name.getD p.script ++ " (" ++ p.script ++ ")\n" ++
    Text.join (p.roots.map Root.listed) ++ Text.join (p.warnings.map warningListed)

end Program

end NodeScript
