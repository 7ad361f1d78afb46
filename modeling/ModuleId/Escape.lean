import ModuleId.Path.Check

/-! # Escaped forms

Paths and versions are kept in places that may not tell upper case from lower case. The escaped
form writes an upper-case letter as `!` and the letter in lower case, so that no two escaped
forms differ in case alone. -/

namespace ModuleId

open Text

/-! ## Escaping text -/

/-- The escaped form of one character. -/
def escapeChar (c : Char) : List Char :=
  if c.isUpper then ['!', c.toLower] else [c]

def escapeText (s : List Char) : List Char :=
  s.flatMap escapeChar

/-- The text behind an escaped form. Only a lower-case letter may follow `!`, and upper-case
letters and characters beyond ASCII have no place in an escaped form. -/
def unescapeText? : List Char → Option (List Char)
  | [] => some []
  | '!' :: c :: rest => if c.isLower then (unescapeText? rest).map (c.toUpper :: ·) else none
  | c :: rest =>
      if c == '!' || c.isUpper || !isAscii c then none else (unescapeText? rest).map (c :: ·)

/-- Only ASCII text without `!` can be told from its escaped form again. -/
def isEscapable (s : List Char) : Bool :=
  s.all fun c => c != '!' && isAscii c

/-- The escaped form of a text that has been checked before. -/
def escapeChecked (s : String) : Except ModuleError String :=
  if isEscapable s.toList then .ok (String.ofList (escapeText s.toList))
  else .error (.internalInconsistency s)

/-! ## Paths -/

/-- The escaped form of a module path. -/
def escapePath (path : String) : Except ModuleError String := do
  checkPath .modulePath path
  escapeChecked path

/-- The module path behind an escaped form. -/
def unescapePath (escaped : String) : Except ModuleError String :=
  match unescapeText? escaped.toList with
  | none => .error (.invalidEscapedPath escaped)
  | some path =>
      match checkPath .modulePath (String.ofList path) with
      | .ok () => .ok (String.ofList path)
      | .error cause => .error (.rejectedEscapedPath escaped cause)

/-! ## Versions -/

/-- The escaped form of a version. It need not be a semantic version, but it must be a file name
and hold no `!`. -/
def escapeVersion (version : String) : Except ModuleError String :=
  if (elementFault? .filePath version.toList).isSome || version.toList.contains '!' then
    .error (.disallowedVersion version)
  else escapeChecked version

/-- The version behind an escaped form. -/
def unescapeVersion (escaped : String) : Except ModuleError String :=
  match unescapeText? escaped.toList with
  | none => .error (.invalidEscapedVersion escaped)
  | some version =>
      match elementFault? .filePath version with
      | none => .ok (String.ofList version)
      | some fault => .error (.rejectedEscapedVersion (String.ofList version) fault)

end ModuleId
