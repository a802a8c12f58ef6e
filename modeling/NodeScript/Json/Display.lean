import NodeScript.Decimal.Numeral
import NodeScript.Json
import NodeScript.Text.Quoted

namespace NodeScript

namespace Json

mutual
def display : Json → String
  | null => "None"
  | bool value => if value then "True" else "False"
  | int value => Decimal.intText value
  | float value => Decimal.floatText Decimal.plain value
  | str text => Text.quoted text
  | arr items => "[" ++ displayItems "" items ++ "]"
  | obj members => "\x7b" ++ displayMembers "" members ++ "\x7d"
def displayItems (before : String) : List Json → String
  | [] => ""
  | item :: items => before ++ display item ++ displayItems ", " items
def displayMembers (before : String) : List (Text × Json) → String
  | [] => ""
  | (name, value) :: members =>
    before ++ Text.quoted name ++ ": " ++ display value ++ displayMembers ", " members
end

end Json

end NodeScript
