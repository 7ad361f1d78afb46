import ModuleId.Path.Fault
import ModuleId.Text.Alphabetic
import ModuleId.Text.Ascii

/-! # Path elements

An element is the text between two slashes. The rules for one element are tried in a fixed
order, and the first that fails names the fault. -/

namespace ModuleId

open Text

/-- Names of devices, which no element may have before its first dot in any case. -/
def reservedNames : List String :=
  ["CON", "PRN", "AUX", "NUL", "COM1", "COM2", "COM3", "COM4", "COM5", "COM6", "COM7", "COM8",
    "COM9", "LPT1", "LPT2", "LPT3", "LPT4", "LPT5", "LPT6", "LPT7", "LPT8", "LPT9"]

def isReserved (short : List Char) : Bool :=
  reservedNames.any fun name => name.toList == upperCase short

/-- Punctuation in import and module paths. -/
def importPunctuation : List Char :=
  ['+', '-', '.', '_', '~']

/-- Punctuation in file paths; what shells and file systems give a meaning stays out. -/
def filePunctuation : List Char :=
  ['!', '#', '$', '%', '&', '(', ')', '+', ',', '-', '.', '=', '@', '[', ']', '^', '_', '\x7b',
    '\x7d', '~', ' ']

/-- The characters that may stand in an element. Beyond ASCII only letters of file paths may. -/
def PathKind.allows : PathKind → Char → Bool
  | .filePath, c =>
      if isAscii c then c.isAlphanum || filePunctuation.contains c else isAlphabetic c
  | _, c => c.isAlphanum || importPunctuation.contains c

/-- Only the elements of file paths may begin with a dot. -/
def PathKind.allowsLeadingDot (kind : PathKind) : Bool :=
  kind == .filePath

/-- The part of an element before its first dot. -/
def shortName (element : List Char) : List Char :=
  element.takeWhile (· != '.')

/-- The first rule that an element breaks. -/
def elementFault? (kind : PathKind) (element : List Char) : Option PathFault :=
  if element.isEmpty then some .emptyElement
  else if element.all (· == '.') then some (.invalidElement (String.ofList element))
  else if element.head? == some '.' && !kind.allowsLeadingDot then some .leadingDot
  else if element.getLast? == some '.' then some .trailingDot
  else match element.find? fun c => !kind.allows c with
    | some c => some (.invalidChar c)
    | none =>
        if isReserved (shortName element) then
          some (.reservedName (String.ofList (shortName element)))
        else none

end ModuleId
