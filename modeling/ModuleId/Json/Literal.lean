/-! # String literals of JSON -/

namespace ModuleId.Json

/-! ## Writing -/

/-- One character of a string literal. Only the quote, the backslash and the characters below
the space are escaped. -/
def literalChar (c : Char) : List Char :=
  if c == '"' || c == '\\' then ['\\', c]
  else if c == '\x08' then ['\\', 'b']
  else if c == '\t' then ['\\', 't']
  else if c == '\n' then ['\\', 'n']
  else if c == '\x0c' then ['\\', 'f']
  else if c == '\r' then ['\\', 'r']
  else if c.toNat < 0x20 then
    ['\\', 'u', '0', '0', Nat.digitChar (c.toNat / 16), Nat.digitChar (c.toNat % 16)]
  else [c]

/-- A string literal with its quotes. -/
def literal (s : List Char) : List Char :=
  '"' :: s.flatMap literalChar ++ ['"']

/-! ## Reading -/

def hexValue? (c : Char) : Option Nat :=
  if c.isDigit then some (c.toNat - '0'.toNat)
  else if 'a' ≤ c && c ≤ 'f' then some (c.toNat - 'a'.toNat + 10)
  else if 'A' ≤ c && c ≤ 'F' then some (c.toNat - 'A'.toNat + 10)
  else none

/-- The number written by four hexadecimal digits. -/
def codeUnit? (a b c d : Char) : Option Nat := do
  return (((← hexValue? a) * 16 + (← hexValue? b)) * 16 + (← hexValue? c)) * 16 + (← hexValue? d)

/-- The character behind a one-letter escape. -/
def shortEscape? (c : Char) : Option Char :=
  match c with
  | '"' => some '"'
  | '\\' => some '\\'
  | '/' => some '/'
  | 'b' => some '\x08'
  | 'f' => some '\x0c'
  | 'n' => some '\n'
  | 'r' => some '\r'
  | 't' => some '\t'
  | _ => none

def isHighSurrogate (n : Nat) : Bool :=
  0xD800 ≤ n && n < 0xDC00

def isLowSurrogate (n : Nat) : Bool :=
  0xDC00 ≤ n && n < 0xE000

/-- The text of a literal after its first quote, and what follows its last quote. Two code units
may write one character as a surrogate pair; a surrogate on its own is refused. -/
def literal? : List Char → Option (List Char × List Char)
  | '"' :: rest => some ([], rest)
  | '\\' :: 'u' :: a :: b :: c :: d :: rest =>
      match codeUnit? a b c d with
      | none => none
      | some unit =>
          if isHighSurrogate unit then
            match rest with
            | '\\' :: 'u' :: e :: f :: g :: h :: rest =>
                match codeUnit? e f g h with
                | none => none
                | some low =>
                    if isLowSurrogate low then
                      let code := 0x10000 + (unit - 0xD800) * 0x400 + (low - 0xDC00)
                      (literal? rest).map fun (s, rest) => (Char.ofNat code :: s, rest)
                    else none
            | _ => none
          else if isLowSurrogate unit then none
          else (literal? rest).map fun (s, rest) => (Char.ofNat unit :: s, rest)
  | '\\' :: c :: rest =>
      match shortEscape? c with
      | none => none
      | some c => (literal? rest).map fun (s, rest) => (c :: s, rest)
  | c :: rest =>
      if c == '\\' || c.toNat < 0x20 then none
      else (literal? rest).map fun (s, rest) => (c :: s, rest)
  | [] => none

end ModuleId.Json
