import ModuleId.Command.Arguments
import ModuleId.Escape
import ModuleId.Release.Check

/-! # What commands print -/

namespace ModuleId

/-- What is left when a program has ended. -/
structure Outcome where
  exitCode : Nat
  output : String
  errors : String
deriving DecidableEq, Repr

/-- The bytes of each source, or why it cannot be read. -/
abbrev Contents := Source → Except ReadError ByteArray

/-- The text of a source, which must be well-formed UTF-8. -/
def Contents.text (contents : Contents) (source : Source) : Except CommandError String :=
  match contents source with
  | .error cause => .error (.unreadable source cause)
  | .ok bytes =>
      match String.fromUTF8? bytes with
      | none => .error (.unreadable source .notText)
      | some text => .ok text

namespace Command

/-! ## The output of each command -/

/-- Only a module path has versions. -/
def checkInput (kind : PathKind) (path : String) : Option String → Except CommandError Unit
  | none => (checkPath kind path).mapError .rejected
  | some version =>
      if kind == .modulePath then (checkRelease path version).mapError .rejected
      else .error .strayVersion

/-- A passed check in JSON. -/
def checkReport (kind : PathKind) (path : String) (version : Option String) : Json :=
  .object [("kind", .string kind.name), ("path", .string path), ("valid", .bool true),
    ("version", (version.map Json.string).getD .null)]

def checkOutput (kind : PathKind) (path : String) (version : Option String) (json : Bool) :
    String :=
  if json then (checkReport kind path version).pretty
  else match version with
    | none => "ok " ++ path
    | some version => "ok " ++ Release.text ⟨path, version⟩

def splitOutput (parts : MajorSplit) (json : Bool) : String :=
  if json then
    Json.pretty (.object [("path_major", .string parts.suffix), ("prefix", .string parts.stem)])
  else parts.stem ++ "\t" ++ parts.suffix

/-- A listing in order, as a table or in JSON. -/
def sortOutput (text : String) (json : Bool) : Except CommandError String :=
  match Listing.read text with
  | .error error => .error (.badLine error)
  | .ok releases =>
      if json then .ok ((Listing.toJson (Release.sort releases)).pretty ++ "\n")
      else .ok (Listing.table (Release.sort releases))

/-- What a command writes to standard output. -/
def run (contents : Contents) : Command → Except CommandError String
  | .check kind path version json =>
      (checkInput kind path version).map fun _ => checkOutput kind path version json ++ "\n"
  | .split path json =>
      match splitMajor? path with
      | none => .error (.invalidSuffix path)
      | some parts => .ok (splitOutput parts json ++ "\n")
  | .escape input isVersion =>
      ((if isVersion then escapeVersion input else escapePath input).mapError .rejected).map
        (· ++ "\n")
  | .unescape input isVersion =>
      ((if isVersion then unescapeVersion input else unescapePath input).mapError .rejected).map
        (· ++ "\n")
  | .canonical version =>
      match canonicalVersion? version with
      | none => .error (.invalidVersion version)
      | some form => .ok (form ++ "\n")
  | .sort source json => do
      let text ← contents.text source
      sortOutput text json

/-- The source that a command reads. -/
def source? : Command → Option Source
  | .sort source _ => some source
  | _ => none

end Command

/-! ## Outcomes -/

/-- The help text: the line for the whole program, then one for each command. -/
def usage : String :=
  "usage: moduleid [--log-level LEVEL] COMMAND [OPTION]... [ARGUMENT]...\n" ++
  "  check [--kind module|import|file] [--json] PATH [VERSION]\n" ++
  "  split [--json] PATH\n" ++
  "  escape [--version] INPUT\n" ++
  "  unescape [--version] INPUT\n" ++
  "  canonical VERSION\n" ++
  "  sort [--json] [FILE]\n"

/-- A refused command exits with 1 and says why. -/
def Outcome.ofResult : Except CommandError String → Outcome
  | .ok output => ⟨0, output, ""⟩
  | .error error => ⟨1, "", "Error: " ++ error.message ++ "\n"⟩

/-- A command line that asks for no command exits with 2. -/
def Outcome.ofRequest (contents : Contents) : Except UsageError Request → Outcome
  | .error error => ⟨2, "", "error: " ++ error.message ++ "\n\n" ++ usage⟩
  | .ok .help => ⟨0, usage, ""⟩
  | .ok (.run command) => .ofResult (command.run contents)

end ModuleId
