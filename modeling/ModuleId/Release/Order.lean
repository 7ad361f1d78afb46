import ModuleId.Release.Basic
import ModuleId.Version.Precedence

/-! # The order of releases

A version may carry a tag from its first slash on, as in `v0.0.1/go.mod`. Releases are ordered by
path, by the precedence of the version before its tag, by tag, and last by the whole version, so
that only equal releases rank equal. -/

namespace ModuleId.Release

/-- The version before its tag. -/
def untaggedVersion (r : Release) : List Char :=
  r.version.toList.takeWhile (· != '/')

/-- The version from its first slash on. -/
def tag (r : Release) : List Char :=
  r.version.toList.dropWhile (· != '/')

def order : Release → Release → Ordering :=
  compareLex (compareOn path) <|
    compareLex (fun a b => textPrecedence a.untaggedVersion b.untaggedVersion) <|
      compareLex (compareOn tag) (compareOn version)

/-- The releases in ascending order. -/
def sort (releases : List Release) : List Release :=
  releases.mergeSort fun a b => (order a b).isLE

end ModuleId.Release
