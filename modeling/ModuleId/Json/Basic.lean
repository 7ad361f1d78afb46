import ModuleId.Text.Quoted

/-! # JSON values -/

namespace ModuleId

/-- A JSON value. The members of an object stand in the order in which they are written, and a
number that is no integer keeps its literal. -/
inductive Json
  | null
  | bool (value : Bool)
  | integer (value : Int)
  | decimal (literal : String)
  | string (value : String)
  | array (items : List Json)
  | object (members : List (String × Json))
deriving Repr

namespace Json

/-- The value of a member. Of several members with one name the last counts. -/
def member? (name : String) (members : List (String × Json)) : Option Json :=
  (members.reverse.find? fun member => member.1 == name).map (·.2)

/-- What kind of value this is, in words for a message. -/
def describe : Json → String
  | .null => "null"
  | .bool value => "boolean `" ++ (if value then "true" else "false") ++ "`"
  | .integer value => "integer `" ++ toString value ++ "`"
  | .decimal literal => "floating point `" ++ literal ++ "`"
  | .string value => "string " ++ Text.quoted value
  | .array _ => "sequence"
  | .object _ => "map"

end Json

end ModuleId
