import NodeScript.Diagnostic
import NodeScript.Template

/-!
Programs. A script becomes one sequence of statements for each of its events, or the reason why an
event has none, and warnings about what no event reaches.
-/
namespace NodeScript

inductive StatementKind where
  | event | invoke | bridge | loop
  deriving DecidableEq, Repr, Inhabited

namespace StatementKind

def name : StatementKind → Text
  | event => "event"
  | invoke => "invoke"
  | bridge => "bridge"
  | loop => "loop"

end StatementKind

/-- The value of an input: its own, or the one another statement gives out at a port; that one is
marshalled if it comes from the other context. -/
inductive Argument where
  | literal (port : Text) (value : Json)
  | ref (port holder fromPort : Text) (marshalled : Bool)
  deriving DecidableEq, Repr, Inhabited

structure Statement where
  index : Nat
  node : Text
  type : Text
  context : Context
  kind : StatementKind
  holder : Text
  args : List Argument := []
  params : Members := []
  flow : List (Text × List Text) := []
  loopBack : List Text := []
  deriving DecidableEq, Repr, Inhabited

inductive CompileError where
  | unknownTypes (types nodes : List Text)
  | cycle (nodes : List Text)
  | crossing (fromNode : Text) (fromContext : Context) (toNode : Text) (toContext : Context)
      (connection : Text)
  deriving DecidableEq, Repr

namespace CompileError

def diagnostic : CompileError → Diagnostic
  | unknownTypes types nodes =>
    { kind := .unknownNodeType, message := "Unknown node type: " ++ Text.joinWith ", " types, nodes }
  | cycle nodes =>
    { kind := .cyclicGraph, message := "Cycle outside a loop construct: " ++ Text.joinWith ", " nodes
      nodes }
  | crossing fromNode fromContext toNode toContext connection =>
    { kind := .contextViolation
      message := fromNode ++ " (" ++ fromContext.name ++ ") -> " ++ toNode ++ " (" ++ toContext.name ++
        ") crosses contexts without a bridge"
      nodes := [fromNode, toNode], connections := [connection] }

end CompileError

structure Root where
  event : Text
  outcome : Except CompileError (List Statement)

namespace Root

def ok (r : Root) : Bool := r.outcome.isOk

end Root

structure Program where
  script : Text
  roots : List Root := []
  dead : List Text := []

namespace Program

def ok (p : Program) : Bool := p.roots.all Root.ok

def root? (p : Program) (event : Text) : Option Root := p.roots.find? (·.event = event)

def deadCode (nodes : List Text) : Diagnostic :=
  { kind := .deadCode
    message := Decimal.natText nodes.length ++ " node(s) unreachable from any event: " ++
      Text.joinWith ", " nodes
    nodes, fatal := false }

def warnings (p : Program) : List Diagnostic := if p.dead = [] then [] else [deadCode p.dead]

end Program

end NodeScript
