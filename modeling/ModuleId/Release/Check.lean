import ModuleId.Path.Check
import ModuleId.Release.Basic
import ModuleId.Release.Suffix

/-! # Checking releases -/

namespace ModuleId

/-- The suffix of a path; empty also when the path cannot be split. -/
def pathSuffix (path : List Char) : List Char :=
  ((cutMajor? path).map (·.2)).getD []

/-- Accepts a version of a module: the path is valid, the version is a semantic version, and the
version goes with the suffix of the path. -/
def checkRelease (path version : String) : Except ModuleError Unit := do
  checkPath .modulePath path
  if (Version.parse? version.toList).isNone then .error (.malformedVersion version)
  else if matchesSuffix version.toList (pathSuffix path.toList) then .ok ()
  else .error (.mismatchedMajor path version (wantedMajor (pathSuffix path.toList)))

def Release.check (r : Release) : Except ModuleError Unit :=
  checkRelease r.path r.version

end ModuleId
