import NodeScript.Editor.Copy
import NodeScript.Script.Record
import NodeScript.Search.Query

namespace NodeScript

def maybeText (members : Members) (name : Text) : Reader (Option Text) :=
  Reader.field members name (Reader.of none) (Reader.maybe Reader.text)

def maybePosition (members : Members) : Reader (Option Position) :=
  Reader.field members "position" (Reader.of none) (Reader.maybe Position.read)

def maybeParameters (members : Members) : Reader (Option Members) :=
  Reader.field members "parameter_values" (Reader.of none) (Reader.maybe Reader.mapping)

def requiredText (members : Members) (name : Text) : Reader Text :=
  Reader.required members name Reader.text

def NodeDraft.read : Json → Reader NodeDraft := Reader.record fun members =>
  ((((((Reader.of fun type => NodeDraft.mk (some type)).and (requiredText members "type")).and
    (maybePosition members)).and (maybeParameters members)).and (maybeText members "label")).and
    (maybeText members "parent_id"))

def NodeChange.read : Json → Reader NodeChange := Reader.record fun members =>
  ((((Reader.of NodeChange.mk).and (maybePosition members)).and (maybeParameters members)).and
    (maybeText members "label"))

def Link.read : Json → Reader Link := Reader.record fun members =>
  (((((Reader.of Link.mk).and (requiredText members "from_node_id")).and
    (requiredText members "from_port")).and (requiredText members "to_node_id")).and
    (requiredText members "to_port"))

def VariableDraft.read : Json → Reader VariableDraft := Reader.record fun members =>
  (((((Reader.of VariableDraft.mk).and (requiredText members "name")).and
    (Reader.field members "type" (Reader.of .any) PortType.read)).and
    (Reader.field members "default_value" (Reader.of .null) Reader.anything)).and
    (maybeText members "description"))

namespace Http

def filterChoice : Json → Reader Filter := Reader.choice Filter.every Filter.name

structure SearchRequest where
  query : Text
  filter : Filter
  limit : Option Int

def SearchRequest.read : Json → Reader SearchRequest := Reader.record fun members =>
  ((((Reader.of SearchRequest.mk).and (Reader.field members "query" (Reader.of "") Reader.text)).and
    (Reader.field members "category_filter" (Reader.of .all) filterChoice)).and
    (Reader.field members "limit" (Reader.of none) (Reader.maybe Reader.whole)))

structure ScriptRequest where
  name : Text
  description : Option Text

def ScriptRequest.read : Json → Reader ScriptRequest := Reader.record fun members =>
  (((Reader.of ScriptRequest.mk).and (requiredText members "name")).and
    (maybeText members "description"))

def readName : Json → Reader Text := Reader.record fun members => requiredText members "name"

def readMaybeName : Json → Reader (Option Text) := Reader.record fun members =>
  maybeText members "name"

def readConfirmed : Json → Reader Bool := Reader.record fun members =>
  Reader.field members "confirmed" (Reader.of false) Reader.flag

def readMaybeType : Json → Reader (Option Text) := Reader.record fun members =>
  maybeText members "type"

def readConnectionId : Json → Reader Text := Reader.record fun members =>
  requiredText members "connection_id"

def readOffset : Json → Reader Float := Reader.record fun members =>
  Reader.field members "offset" (Reader.of Desk.defaultOffset) Reader.real

structure ClickRequest where
  node : Text
  additive : Bool

def ClickRequest.read : Json → Reader ClickRequest := Reader.record fun members =>
  (((Reader.of ClickRequest.mk).and (requiredText members "node_id")).and
    (Reader.field members "additive" (Reader.of false) Reader.flag))

structure PortRequest where
  node : Option Text
  port : Option Text

def PortRequest.read : Json → Reader PortRequest := Reader.record fun members =>
  (((Reader.of PortRequest.mk).and (maybeText members "node_id")).and (maybeText members "port"))

structure MoveRequest where
  dx : Float
  dy : Float

def MoveRequest.read : Json → Reader MoveRequest := Reader.record fun members =>
  (((Reader.of MoveRequest.mk).and (Reader.required members "dx" Reader.real)).and
    (Reader.required members "dy" Reader.real))

structure LabelRequest where
  node : Text
  label : Text

def LabelRequest.read : Json → Reader LabelRequest := Reader.record fun members =>
  (((Reader.of LabelRequest.mk).and (requiredText members "node_id")).and (requiredText members "label"))

structure OpenRequest where
  x : Float
  y : Float
  query : Text

def OpenRequest.read : Json → Reader OpenRequest := Reader.record fun members =>
  ((((Reader.of OpenRequest.mk).and (Reader.required members "x" Reader.real)).and
    (Reader.required members "y" Reader.real)).and
    (Reader.field members "query" (Reader.of "") Reader.text))

structure QueryRequest where
  query : Option Text
  filter : Option Filter

def QueryRequest.read : Json → Reader QueryRequest := Reader.record fun members =>
  (((Reader.of QueryRequest.mk).and (maybeText members "query")).and
    (Reader.field members "category_filter" (Reader.of none) (Reader.maybe filterChoice)))

structure KeyRequest where
  key : Text
  shift : Bool

def KeyRequest.read : Json → Reader KeyRequest := Reader.record fun members =>
  (((Reader.of KeyRequest.mk).and (requiredText members "key")).and
    (Reader.field members "shift" (Reader.of false) Reader.flag))

end Http

end NodeScript
