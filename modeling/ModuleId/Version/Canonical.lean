import ModuleId.Version.Parse

/-! # Canonical versions -/

namespace ModuleId

/-- The build metadata of a release of major version 2 or more whose path has no suffix. -/
def BuildIdentifier.incompatible : BuildIdentifier :=
  ⟨['i', 'n', 'c', 'o', 'm', 'p', 'a', 't', 'i', 'b', 'l', 'e'], by decide⟩

namespace Version

def isIncompatible (v : Version) : Bool :=
  v.build == [BuildIdentifier.incompatible]

/-- The full form of a version without its build metadata. -/
def canonical (v : Version) : Version :=
  .full v.major v.minor v.patch v.prerelease []

/-- The full form of a version, which keeps of the build metadata only the incompatible mark. -/
def canonicalRelease (v : Version) : Version :=
  .full v.major v.minor v.patch v.prerelease
    (if v.isIncompatible then [BuildIdentifier.incompatible] else [])

end Version

/-- The canonical text of a version; `none` when the text is no version. -/
def canonicalForm? (version : String) : Option String :=
  (Version.parse? version.toList).map fun v => String.ofList v.canonical.text

/-- The canonical text of a version that is to be released; `none` when the text is no version. -/
def canonicalVersion? (version : String) : Option String :=
  (Version.parse? version.toList).map fun v => String.ofList v.canonicalRelease.text

end ModuleId
