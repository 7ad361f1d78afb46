import ModuleId.Error
import ModuleId.Listing

/-! # Commands and what can go wrong with them -/

namespace ModuleId

/-- Where a command reads from. -/
inductive Source
  | standardInput
  | file (name : String)
deriving DecidableEq, Repr

def Source.name : Source → String
  | .standardInput => "stdin"
  | .file name => name

/-- Why a source could not be read. -/
inductive ReadError
  | notFound
  | isDirectory
  | notText
  | other (message : String)
deriving DecidableEq, Repr

def ReadError.message : ReadError → String
  | .notFound => "No such file or directory (os error 2)"
  | .isDirectory => "Is a directory (os error 21)"
  | .notText => "stream did not contain valid UTF-8"
  | .other message => message

inductive Command
  /-- Check a path, or a version of a module. -/
  | check (kind : PathKind) (path : String) (version : Option String) (json : Bool)
  /-- Split a module path into stem and major-version suffix. -/
  | split (path : String) (json : Bool)
  /-- Print the escaped form of a path or a version. -/
  | escape (input : String) (isVersion : Bool)
  /-- Print the path or version behind an escaped form. -/
  | unescape (input : String) (isVersion : Bool)
  /-- Print the canonical form of a version. -/
  | canonical (version : String)
  /-- Print a listing in order. -/
  | sort (source : Source) (json : Bool)
deriving DecidableEq, Repr

/-- Why a command fails. -/
inductive CommandError
  | unreadable (source : Source) (cause : ReadError)
  | rejected (cause : ModuleError)
  | invalidSuffix (path : String)
  | invalidVersion (version : String)
  /-- A version is given along with a path that is not checked as a module path. -/
  | strayVersion
  | badLine (error : LineError)
deriving DecidableEq, Repr

def CommandError.message : CommandError → String
  | .unreadable source cause => "failed to read " ++ source.name ++ ": " ++ cause.message
  | .rejected cause => cause.message
  | .invalidSuffix path => "malformed major version suffix in " ++ Text.quoted path
  | .invalidVersion version => "malformed semantic version " ++ version
  | .strayVersion => "a version can only be checked against a module path"
  | .badLine error =>
      "line " ++ toString error.line ++ ": cannot parse " ++ Text.quoted error.text ++
        " as a module version"

end ModuleId
