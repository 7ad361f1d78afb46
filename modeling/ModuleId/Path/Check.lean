import ModuleId.Error
import ModuleId.Path.Element
import ModuleId.Path.Suffix

/-! # Checking paths

All three kinds of path are scanned in the same way: first the text as a whole, then its
elements from left to right. A module path has further rules for its host, the first element,
and for its major-version suffix. -/

namespace ModuleId

open Text

/-- The first rule broken by the text as a whole or by one of its elements. -/
def scanFault? (kind : PathKind) (path : List Char) : Option PathFault :=
  if path.isEmpty then some .emptyString
  else if doubled '.' path then some .doubleDot
  else if doubled '/' path then some .doubleSlash
  else if path.getLast? == some '/' then some .trailingSlash
  else (path.splitOn '/').findSome? (elementFault? kind)

/-- The first element of a path. -/
def host (path : List Char) : List Char :=
  path.takeWhile (· != '/')

/-- A host is written in lower-case letters, digits, dots and dashes. -/
def allowedInHost (c : Char) : Bool :=
  c == '-' || c == '.' || c.isDigit || c.isLower

/-- The first rule broken by the host of a module path. -/
def hostFault? (host : List Char) : Option PathFault :=
  if host.isEmpty then some .leadingSlash
  else if !host.contains '.' then some .missingDotInFirstElement
  else if host.head? == some '-' then some .leadingDash
  else (host.find? fun c => !allowedInHost c).map .invalidCharInFirstElement

/-- The fault of a suffix that cannot be split off. -/
def suffixFault? (path : List Char) : Option PathFault :=
  if (cutMajor? path).isNone then some .invalidVersionSuffix else none

/-- The first rule that a path of the given kind breaks. -/
def pathFault? (kind : PathKind) (path : List Char) : Option PathFault :=
  (scanFault? kind path).or <|
    match kind with
    | .modulePath => (hostFault? (host path)).or (suffixFault? path)
    | _ => none

/-- Accepts a path of the given kind, or names the first rule that it breaks. -/
def checkPath (kind : PathKind) (path : String) : Except ModuleError Unit :=
  match pathFault? kind path.toList with
  | none => .ok ()
  | some fault => .error (.malformedPath kind path fault)

end ModuleId
