import ModuleId.Json.Basic
import ModuleId.Json.Literal

/-! # Printing JSON -/

namespace ModuleId.Json

/-- The text of a value that has no parts. -/
def scalarText : Json → List Char
  | .null => ['n', 'u', 'l', 'l']
  | .bool true => ['t', 'r', 'u', 'e']
  | .bool false => ['f', 'a', 'l', 's', 'e']
  | .integer value => (toString value).toList
  | .decimal literal => literal.toList
  | .string value => literal value.toList
  | _ => []

/-! ## Compact form -/

mutual

/-- A value without any blanks. -/
def compactText : Json → List Char
  | .array items => '[' :: [','].intercalate (compactItems items) ++ [']']
  | .object members => '\x7b' :: [','].intercalate (compactMembers members) ++ ['\x7d']
  | value => scalarText value

def compactItems : List Json → List (List Char)
  | [] => []
  | item :: items => compactText item :: compactItems items

def compactMembers : List (String × Json) → List (List Char)
  | [] => []
  | (name, value) :: members =>
      (literal name.toList ++ ':' :: compactText value) :: compactMembers members

end

def compact (value : Json) : String :=
  String.ofList (compactText value)

/-! ## Indented form -/

/-- The start of a line at a depth, two blanks for each level. -/
def newLine (depth : Nat) : List Char :=
  '\n' :: List.replicate (2 * depth) ' '

/-- Parts between brackets, each on a line of its own; no parts need no lines. -/
def bracketed (first last : Char) (depth : Nat) : List (List Char) → List Char
  | [] => [first, last]
  | parts => first :: newLine (depth + 1) ++ (',' :: newLine (depth + 1)).intercalate parts ++
      newLine depth ++ [last]

mutual

/-- A value with every item and member on its own line. -/
def prettyText (depth : Nat) : Json → List Char
  | .array items => bracketed '[' ']' depth (prettyItems (depth + 1) items)
  | .object members => bracketed '\x7b' '\x7d' depth (prettyMembers (depth + 1) members)
  | value => scalarText value

def prettyItems (depth : Nat) : List Json → List (List Char)
  | [] => []
  | item :: items => prettyText depth item :: prettyItems depth items

def prettyMembers (depth : Nat) : List (String × Json) → List (List Char)
  | [] => []
  | (name, value) :: members =>
      (literal name.toList ++ ':' :: ' ' :: prettyText depth value) :: prettyMembers depth members

end

def pretty (value : Json) : String :=
  String.ofList (prettyText 0 value)

end ModuleId.Json
