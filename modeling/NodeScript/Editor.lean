import NodeScript.Script.Edit
import NodeScript.Search.Session

/-!
The editor of a script: a selection, over which a command surface may be open that keeps the
selection it was opened on. The script records the selection; an open surface selects nothing. A
surface that could not be opened leaves its search beside the selection.
-/
namespace NodeScript

inductive Selection where
  | nothing
  | nodes (ids : List Text)
  | connection (id : Text)
  | drag (node port : Text)
  deriving DecidableEq, Repr, Inhabited

structure CommandSurface where
  position : Position
  session : Session
  prior : Selection
  deriving DecidableEq, Repr

inductive Editor where
  | resting (selection : Selection) (search : Option Session := none)
  | commanding (surface : CommandSurface)
  deriving DecidableEq, Repr

/-- An editor at its script, with the recent types and the ids it may draw. -/
structure Desk where
  script : Script
  editor : Editor := .resting .nothing
  recents : Recents := {}
  ids : IdSupply := {}

/-- A desk without a surface, and the search that was closed with its surface. The search is not the
editor's any more; whoever opened the surface may still hold it. -/
structure ClosedDesk extends Desk where
  ended : Option Session := none

instance : Coe ClosedDesk Desk := ⟨ClosedDesk.toDesk⟩

namespace Selection

def nodeIds : Selection → List Text
  | nodes ids => ids
  | _ => []

def connectionId? : Selection → Option Text
  | connection id => some id
  | _ => none

def ofNodes (ids : List Text) : Selection := if ids = [] then nothing else nodes ids

/-- The selection a script records; nodes go before a connection. -/
def recorded (s : Script) : Selection :=
  if s.selectedNodes = [] then
    match s.selectedConnection with
    | some id => if id = "" then nothing else connection id
    | none => nothing
  else nodes s.selectedNodes

/-- The part of a selection that is in the script. A drag is kept, and so is a connection without
a name. -/
def present (s : Script) : Selection → Selection
  | nodes ids => ofNodes (ids.filter fun id => (s.node? id).isSome)
  | connection id => if id ≠ "" ∧ s.connection? id = none then nothing else connection id
  | other => other

end Selection

namespace Editor

def selection : Editor → Selection
  | resting selection _ => selection
  | commanding _ => .nothing

def surface? : Editor → Option CommandSurface
  | commanding surface => some surface
  | resting .. => none

def session? : Editor → Option Session
  | commanding surface => some surface.session
  | resting _ search => search

def leftSearch? : Editor → Option Session
  | commanding _ => none
  | resting _ search => search

def withSession (session : Session) : Editor → Editor
  | commanding surface => commanding { surface with session }
  | resting selection _ => resting selection session

def modeName : Editor → Text
  | resting .nothing _ => "Idle"
  | resting (.nodes _) _ => "NodesSelected"
  | resting (.connection _) _ => "ConnectionSelected"
  | resting (.drag ..) _ => "PendingConnection"
  | commanding _ => "CommandSurfaceOpen"

end Editor

def Script.recordSelection (selection : Selection) (s : Script) : Script :=
  { s with selectedNodes := selection.nodeIds, selectedConnection := selection.connectionId? }

namespace Desk

/-- An open surface is closed and its search forgotten. -/
def choose (selection : Selection) (d : Desk) : Desk :=
  { d with editor := .resting selection d.editor.leftSearch?, script := d.script.recordSelection selection }

def refresh (d : Desk) : Desk :=
  match d.editor with
  | .resting selection _ => d.choose (selection.present d.script)
  | .commanding _ => { d with script := d.script.recordSelection .nothing }

def start (s : Script) (recents : Recents) (ids : IdSupply) : Desk :=
  refresh { script := s, editor := .resting (Selection.recorded s), recents, ids }

/-- Closing a command surface closes its search and brings the selection back that it was opened on. -/
def cancelCommand (d : Desk) : ClosedDesk :=
  match d.editor with
  | .resting .. => { toDesk := d }
  | .commanding surface =>
    { toDesk := d.choose (surface.prior.present d.script), ended := some surface.session.close }

end Desk

end NodeScript
