import ModuleId.Path.Fault

/-! # Why a path, a version or an escaped form is refused -/

namespace ModuleId

inductive ModuleError
  /-- A path breaks a rule of its dialect. -/
  | malformedPath (kind : PathKind) (path : String) (fault : PathFault)
  /-- A version is no semantic version. -/
  | malformedVersion (version : String)
  /-- A version does not belong to the major version that its path names. -/
  | mismatchedMajor (path version want : String)
  /-- A version has no escaped form. -/
  | disallowedVersion (version : String)
  /-- A text is not the escaped form of any path. -/
  | invalidEscapedPath (escaped : String)
  /-- An escaped form stands for a text that is no module path. -/
  | rejectedEscapedPath (escaped : String) (cause : ModuleError)
  /-- A text is not the escaped form of any version. -/
  | invalidEscapedVersion (escaped : String)
  /-- An escaped form stands for a text that is no file name. -/
  | rejectedEscapedVersion (version : String) (fault : PathFault)
  /-- A checked text still cannot be escaped. -/
  | internalInconsistency (input : String)
deriving DecidableEq, Repr

namespace ModuleError

def message : ModuleError → String
  | malformedPath kind path fault =>
      "malformed " ++ kind.name ++ " path " ++ Text.quoted path ++ ": " ++ fault.message
  | malformedVersion version => "malformed semantic version " ++ version
  | mismatchedMajor path version want =>
      "mismatched module path " ++ path ++ " and version " ++ version ++ " (want " ++ want ++ ")"
  | disallowedVersion version => "disallowed version string " ++ Text.quoted version
  | invalidEscapedPath escaped => "invalid escaped module path " ++ Text.quoted escaped
  | rejectedEscapedPath escaped cause =>
      "invalid escaped module path " ++ Text.quoted escaped ++ ": " ++ cause.message
  | invalidEscapedVersion escaped => "invalid escaped version " ++ Text.quoted escaped
  | rejectedEscapedVersion version fault =>
      "invalid escaped version " ++ Text.quoted version ++ ": " ++ fault.message
  | internalInconsistency input =>
      "internal error: inconsistency in escaping " ++ Text.quoted input

/-- The path rule behind an error, also when the error wraps another one. -/
def fault? : ModuleError → Option PathFault
  | malformedPath _ _ fault => some fault
  | rejectedEscapedVersion _ fault => some fault
  | rejectedEscapedPath _ cause => cause.fault?
  | _ => none

end ModuleError

end ModuleId
