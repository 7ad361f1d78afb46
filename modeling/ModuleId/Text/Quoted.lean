import ModuleId.Text.Extender
import ModuleId.Text.Unprintable

/-! # Quoted text for messages

A quoted text shows every character unambiguously: the quote in use, the backslash and the
common controls have short escapes, and a character that has no printed form of its own is
written by its code point. -/

namespace ModuleId.Text

/-- The code point in lower-case hexadecimal digits between braces. -/
def codePointEscape (c : Char) : List Char :=
  ['\\', 'u', '\x7b'] ++ Nat.toDigits 16 c.toNat ++ ['\x7d']

/-- One character inside quotes written with `quote`. -/
def quoteChar (quote c : Char) : List Char :=
  if c == '\x00' then ['\\', '0']
  else if c == '\t' then ['\\', 't']
  else if c == '\r' then ['\\', 'r']
  else if c == '\n' then ['\\', 'n']
  else if c == '\\' || c == quote then ['\\', c]
  else if isExtender c || isUnprintable c then codePointEscape c
  else [c]

/-- A text between double quotes. -/
def quoted (s : String) : String :=
  String.ofList ('"' :: s.toList.flatMap (quoteChar '"') ++ ['"'])

/-- A character between single quotes. -/
def quotedChar (c : Char) : String :=
  String.ofList ('\'' :: quoteChar '\'' c ++ ['\''])

end ModuleId.Text
