import ModuleId.Path.Suffix
import ModuleId.Version.Canonical

/-! # Versions and the suffixes of paths

A suffix names the major version of every release below it. A path without a suffix has
releases of the first two major versions, and incompatible ones of any. -/

namespace ModuleId

/-- The suffix that has to be met: behind a dot, an unstable mark makes no difference. -/
def stableSuffix (suffix : List Char) : List Char :=
  if ['.', 'v'].isPrefixOf suffix then (cutUnstable suffix).1 else suffix

/-- How the versions of untagged revisions begin. Below `.v1` they were once written so, although
their major version is not 1. -/
def untagged : List Char :=
  ['v', '0', '.', '0', '.', '0', '-']

/-- Whether a version goes with a suffix: its major version is the one the suffix names, or, where
there is no suffix, one of the first two unless the version is incompatible. -/
def Version.goesWith (v : Version) : List Char → Bool
  | [] => v.majorText == ['v', '0'] || v.majorText == ['v', '1'] || v.isIncompatible
  | mark :: major => (mark == '/' || mark == '.') && major == v.majorText

/-- Whether the text of a version goes with a suffix. -/
def matchesSuffix (version suffix : List Char) : Bool :=
  let suffix := stableSuffix suffix
  if untagged.isPrefixOf version && suffix == ['.', 'v', '1'] then true
  else match Version.parse? version with
    | none => false
    | some v => v.goesWith suffix

/-- What a suffix asks of a version, in words. -/
def wantedMajor (suffix : List Char) : String :=
  if suffix.isEmpty then "v0 or v1" else String.ofList ((cutUnstable suffix).1.drop 1)

end ModuleId
