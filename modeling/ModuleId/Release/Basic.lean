import ModuleId.Text.Split

/-! # Releases -/

namespace ModuleId

open Text

/-- A module path and a version of the module. Neither has to be valid. -/
@[ext]
structure Release where
  path : String
  version : String
deriving DecidableEq, Repr

namespace Release

/-- The text `path@version`. -/
def text (r : Release) : String :=
  r.path ++ "@" ++ r.version

/-- Splits a text at its first `@`; without one the text is all path. -/
def ofText (s : String) : Release :=
  let (path, version) := cut '@' s.toList
  ⟨String.ofList path, String.ofList (version.getD [])⟩

end Release

end ModuleId
