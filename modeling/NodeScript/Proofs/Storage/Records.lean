import NodeScript.Proofs.Entries
import NodeScript.Proofs.Json.Document
import NodeScript.Storage.ProjectFile

namespace NodeScript

namespace Reader

variable {α β : Type}

def Reads (read : Reader α) (a : α) : Prop := ∀ ids, read ids = (.ok a, ids)

theorem reads_of (a : α) : Reads (of a) a := fun _ => rfl

theorem Reads.and {read : Reader (α → β)} {next : Reader α} {f : α → β} {a : α} (first : Reads read f)
    (second : Reads next a) : Reads (read.and next) (f a) := by
  intro ids
  simp only [Reader.and, first ids, second ids]
  rfl

theorem Reads.under {read : Reader α} {a : α} (reads : Reads read a) (step : Text) :
    Reads (read.under step) a := by
  intro ids
  simp only [Reader.under, reads ids]
  rfl

theorem reads_items {γ : Type} {read : Json → Reader α} {written : γ → Json} {kept : γ → α} (l : List γ)
    (each : ∀ c, Reads (read (written c)) (kept c)) (place : Nat) :
    Reads (items read place (l.map written)) (l.map kept) := by
  induction l generalizing place with
  | nil => exact reads_of []
  | cons c l ih =>
    have first := (each c).under (Decimal.natText place)
    exact ((reads_of List.cons).and first).and (ih (place + 1))

end Reader

namespace Json

theorem rereadItems_eq (items : List Json) : rereadItems items = items.map reread := by
  induction items with
  | nil => rfl
  | cons item items ih => rw [rereadItems, ih, List.map_cons]

end Json

namespace Reader

theorem reads_text (text : Text) : Reads (Reader.text (Json.str text)) text := reads_of text

theorem reads_real (x : Float) : Reads (real (.float x)) x := reads_of x

theorem reads_list {γ α : Type} (l : List γ) {read : Json → Reader α} {written : γ → Json} {kept : γ → α}
    (each : ∀ c, Reads (read (Json.reread (written c))) (kept c)) :
    Reads (list read (Json.reread (.arr (l.map written)))) (l.map kept) := by
  rw [Json.reread, Json.rereadItems_eq, List.map_map]
  exact reads_items l each 0

theorem reads_maybe (text : Option Text) :
    Reads (maybe Reader.text (Json.reread (Json.ofText? text))) (text.map Text.joined) := by
  cases text with
  | none => exact reads_of none
  | some text => exact (reads_of some).and (reads_text text.joined)

end Reader

open Reader

namespace Position

theorem reads (p : Position) : Reads (read (Json.reread p.toJson)) p :=
  ((reads_of Position.mk).and ((reads_real p.x).under "x")).and ((reads_real p.y).under "y")

end Position

namespace Node

def stored (n : Node) : Node :=
  { n with
    id := n.id.joined, type := n.type.joined
    parameterValues := Json.rereadMembers [] n.parameterValues.written
    label := n.label.map Text.joined, parentId := n.parentId.map Text.joined }

theorem reads (n : Node) : Reads (read (Json.reread n.toJson)) n.stored :=
  ((((((reads_of Node.mk).and ((reads_text n.id.joined).under "id")).and
    ((reads_text n.type.joined).under "type")).and (n.position.reads.under "position")).and
    ((reads_of (Json.rereadMembers [] n.parameterValues.written)).under "parameter_values")).and
    ((reads_maybe n.label).under "label")).and ((reads_maybe n.parentId).under "parent_id")

end Node

namespace Connection

def stored (c : Connection) : Connection :=
  { id := c.id.joined, fromNode := c.fromNode.joined, fromPort := c.fromPort.joined
    toNode := c.toNode.joined, toPort := c.toPort.joined }

theorem reads (c : Connection) : Reads (read (Json.reread c.toJson)) c.stored :=
  (((((reads_of Connection.mk).and ((reads_text c.id.joined).under "id")).and
    ((reads_text c.fromNode.joined).under "from_node_id")).and
    ((reads_text c.fromPort.joined).under "from_port")).and
    ((reads_text c.toNode.joined).under "to_node_id")).and ((reads_text c.toPort.joined).under "to_port")

end Connection

theorem PortType.reads (t : PortType) : Reads (PortType.read (Json.reread (.str t.name))) t := by
  cases t <;> exact reads_of _

namespace Variable

def stored (v : Variable) : Variable :=
  { v with
    id := v.id.joined, name := v.name.joined, defaultValue := Json.reread v.defaultValue.finitePart
    description := v.description.map Text.joined }

theorem reads (v : Variable) : Reads (read (Json.reread v.toJson)) v.stored :=
  (((((reads_of Variable.mk).and ((reads_text v.id.joined).under "id")).and
    ((reads_text v.name.joined).under "name")).and (v.type.reads.under "type")).and
    ((reads_of (Json.reread v.defaultValue.finitePart)).under "default_value")).and
    ((reads_maybe v.description).under "description")

end Variable

namespace Script

def stored (s : Script) : Script :=
  { id := s.id.joined, name := s.name.joined, description := s.description.map Text.joined
    nodes := s.nodes.map Node.stored, connections := s.connections.map Connection.stored
    vars := s.vars.map Variable.stored, selectedNodes := s.selectedNodes.map Text.joined
    selectedConnection := s.selectedConnection.map Text.joined }

theorem reads (s : Script) : Reads (read (Json.reread s.toJson)) s.stored := by
  have written : Json.reread s.toJson = .obj [("id", .str s.id.joined), ("name", .str s.name.joined),
    ("description", Json.reread (Json.ofText? s.description)),
    ("nodes", Json.reread (.arr (s.nodes.map Node.toJson))),
    ("connections", Json.reread (.arr (s.connections.map Connection.toJson))),
    ("variables", Json.reread (.arr (s.vars.map Variable.toJson))),
    ("selected_node_ids", Json.reread (Json.ofTexts s.selectedNodes)),
    ("selected_connection_id", Json.reread (Json.ofText? s.selectedConnection))] := rfl
  rw [written]
  exact ((((((((reads_of Script.mk).and ((reads_text s.id.joined).under "id")).and
    ((reads_text s.name.joined).under "name")).and ((reads_maybe s.description).under "description")).and
    ((reads_list s.nodes Node.reads).under "nodes")).and
    ((reads_list s.connections Connection.reads).under "connections")).and
    ((reads_list s.vars Variable.reads).under "variables")).and
    ((reads_list s.selectedNodes fun id => reads_text id.joined).under "selected_node_ids")).and
    ((reads_maybe s.selectedConnection).under "selected_connection_id")

end Script

namespace Project

/-- What is read of a written project: its texts joined and its free values as they are written. -/
def stored (p : Project) : Project :=
  { scripts := p.scripts.map Script.stored, currentScript := p.currentScript.map Text.joined }

theorem reads (p : Project) : Reads (read (Json.reread p.toJson)) p.stored :=
  ((reads_of Project.mk).and ((reads_list p.scripts Script.reads).under "scripts")).and
    ((reads_maybe p.currentScript).under "current_script_id")

end Project

namespace ProjectFile

theorem reads (time : String) (p : Project) : Reads (read (Json.reread (record time p))) p.stored :=
  (((reads_of fun (_ : Int) (_ : Text) (p : Project) => p).and ((reads_of version).under "version")).and
    ((reads_text (Text.joined time)).under "saved_at")).and (p.reads.under "project")

end ProjectFile

end NodeScript
