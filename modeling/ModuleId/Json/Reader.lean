import ModuleId.Json.Basic
import ModuleId.Json.Token

/-! # Reading JSON -/

namespace ModuleId.Json

mutual

/-- The value at the start of the tokens and the tokens after it, found in at most `bound` steps. -/
def value? : Nat → List Token → Option (Json × List Token)
  | _ + 1, .openArray :: .closeArray :: rest => some (.array [], rest)
  | bound + 1, .openArray :: rest =>
      (items? bound rest).map fun (items, rest) => (.array items, rest)
  | _ + 1, .openObject :: .closeObject :: rest => some (.object [], rest)
  | bound + 1, .openObject :: rest =>
      (members? bound rest).map fun (members, rest) => (.object members, rest)
  | _, .null :: rest => some (.null, rest)
  | _, .bool value :: rest => some (.bool value, rest)
  | _, .integer value :: rest => some (.integer value, rest)
  | _, .decimal literal :: rest => some (.decimal literal, rest)
  | _, .string value :: rest => some (.string value, rest)
  | _, _ => none

/-- One or more items up to the closing bracket. -/
def items? : Nat → List Token → Option (List Json × List Token)
  | 0, _ => none
  | bound + 1, tokens =>
      match value? bound tokens with
      | some (item, .comma :: rest) =>
          (items? bound rest).map fun (items, rest) => (item :: items, rest)
      | some (item, .closeArray :: rest) => some ([item], rest)
      | _ => none

/-- One or more members up to the closing brace. -/
def members? : Nat → List Token → Option (List (String × Json) × List Token)
  | bound + 1, .string name :: .colon :: tokens =>
      match value? bound tokens with
      | some (value, .comma :: rest) =>
          (members? bound rest).map fun (members, rest) => ((name, value) :: members, rest)
      | some (value, .closeObject :: rest) => some ([(name, value)], rest)
      | _ => none
  | _, _ => none

end

/-- The value that the whole text stands for. An opening bracket costs one step and an item
another, so twice the number of tokens is enough. -/
def parse? (s : String) : Option Json :=
  match tokens? s.toList with
  | none => none
  | some tokens =>
      match value? (2 * tokens.length) tokens with
      | some (value, []) => some value
      | _ => none

end ModuleId.Json
