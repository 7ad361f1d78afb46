import ModuleId.Json.Printer
import ModuleId.Json.Reader
import ModuleId.Release.Basic

/-! # Releases in JSON -/

namespace ModuleId

/-- Why a JSON value is no release. -/
inductive DecodeError
  /-- A field holds something other than a string. -/
  | notString (found : Json)
  /-- The value is neither an object nor an array. -/
  | notRelease (found : Json)
  | missingPath
  | noElements
  | extraElements (length : Nat)

def DecodeError.message : DecodeError → String
  | .notString found => "invalid type: " ++ found.describe ++ ", expected a string"
  | .notRelease found => "invalid type: " ++ found.describe ++ ", expected struct ModuleVersion"
  | .missingPath => "missing field `Path`"
  | .noElements => "invalid length 0, expected struct ModuleVersion with 2 elements"
  | .extraElements length =>
      "invalid length " ++ toString length ++ ", expected fewer elements in array"

namespace Release

/-- An object with the path and, unless it is empty, the version. -/
def toJson (r : Release) : Json :=
  if r.version.isEmpty then .object [("Path", .string r.path)]
  else .object [("Path", .string r.path), ("Version", .string r.version)]

/-- The compact JSON text of a release. -/
def jsonText (r : Release) : String :=
  r.toJson.compact

/-- A field, which must be a string. -/
def field : Json → Except DecodeError String
  | .string value => .ok value
  | found => .error (.notString found)

/-- A field that may be missing. -/
def optionalField : Option Json → Except DecodeError (Option String)
  | none => .ok none
  | some found => (field found).map some

/-- Reads an object, in which other members are ignored, or an array of the fields in order.
The version may be missing and is then empty. -/
def ofJson : Json → Except DecodeError Release
  | .object members => do
      let path ← optionalField (Json.member? "Path" members)
      let version ← optionalField (Json.member? "Version" members)
      match path with
      | none => .error .missingPath
      | some path => .ok ⟨path, version.getD ""⟩
  | .array [] => .error .noElements
  | .array [path] => do
      let path ← field path
      .ok ⟨path, ""⟩
  | .array (path :: version :: rest) => do
      let path ← field path
      let version ← field version
      if rest.isEmpty then .ok ⟨path, version⟩ else .error (.extraElements (rest.length + 2))
  | found => .error (.notRelease found)

end Release

end ModuleId
