import ModuleId.Text.Quoted

/-! # Kinds of path and what can be wrong with one -/

namespace ModuleId

/-- The dialect a path is checked against. -/
inductive PathKind
  | modulePath
  | importPath
  | filePath
deriving DecidableEq, Repr

def PathKind.name : PathKind → String
  | .modulePath => "module"
  | .importPath => "import"
  | .filePath => "file"

/-- The first rule that a path breaks, with the part of the path that breaks it. -/
inductive PathFault
  | emptyString
  | doubleDot
  | doubleSlash
  | trailingSlash
  | emptyElement
  | invalidElement (element : String)
  | leadingDot
  | trailingDot
  | invalidChar (char : Char)
  | reservedName (short : String)
  | leadingSlash
  | missingDotInFirstElement
  | leadingDash
  | invalidCharInFirstElement (char : Char)
  | invalidVersionSuffix
deriving DecidableEq, Repr

def PathFault.message : PathFault → String
  | .emptyString => "empty string"
  | .doubleDot => "double dot"
  | .doubleSlash => "double slash"
  | .trailingSlash => "trailing slash"
  | .emptyElement => "empty path element"
  | .invalidElement element => "invalid path element " ++ Text.quoted element
  | .leadingDot => "leading dot in path element"
  | .trailingDot => "trailing dot in path element"
  | .invalidChar char => "invalid char " ++ Text.quotedChar char
  | .reservedName short => Text.quoted short ++ " disallowed as path element component on Windows"
  | .leadingSlash => "leading slash"
  | .missingDotInFirstElement => "missing dot in first path element"
  | .leadingDash => "leading dash in first path element"
  | .invalidCharInFirstElement char =>
      "invalid char " ++ Text.quotedChar char ++ " in first path element"
  | .invalidVersionSuffix => "invalid version"

end ModuleId
