import NodeScript.Catalog
import NodeScript.Json.Parser
import NodeScript.Json.Printer
import NodeScript.Search.Recents
import NodeScript.Storage.Files
import NodeScript.Validation

namespace NodeScript.RecentsFile

def version : Int := 1

def text (r : Recents) : String :=
  (Json.obj [("version", .int version), ("types", Json.ofTexts r.types)]).document

def read : Json → Reader (List Json) := Reader.record fun members =>
  (((Reader.of fun (_ : Int) (types : List Json) => types).and
    (Reader.field members "version" (Reader.of version) Reader.whole)).and
    (Reader.field members "types" (Reader.of []) (Reader.list Reader.anything)))

def ofText? (text : String) : Option (List Json) :=
  match Json.read text with
  | .error _ => none
  | .ok found => ((read found).run).toOption

def isKnown (types : List Text) : Json → Bool
  | .str type => types.contains type
  | _ => false

def loadAmong (files : Files) (path : Text) (maxSize : Int := 8) (known : Option (List Text) := none) :
    Recents :=
  let entries := ((files.text? path).bind ofText?).getD []
  let entries := match known with
    | some types => entries.filter (isKnown types)
    | none => entries
  Recents.ofList entries maxSize

def load (files : Files) (path : Text) (maxSize : Int := 8) (known : Option Catalog := none) :
    Recents :=
  loadAmong files path maxSize (known.map Catalog.types)

def save (r : Recents) (path : Text) (files : Files) : Bool × Files := files.write path (text r)

end NodeScript.RecentsFile
