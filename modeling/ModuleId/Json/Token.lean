import ModuleId.Json.Literal

/-! # Tokens of JSON -/

namespace ModuleId.Json

inductive Token
  | openArray
  | closeArray
  | openObject
  | closeObject
  | comma
  | colon
  | null
  | bool (value : Bool)
  | integer (value : Int)
  | decimal (literal : String)
  | string (value : String)
deriving DecidableEq, Repr

/-! ## Numbers -/

def digitsValue (digits : List Char) : Nat :=
  digits.foldl (fun value c => value * 10 + (c.toNat - '0'.toNat)) 0

/-- Digits that make up the integer part of a number. -/
def isWhole : List Char → Bool
  | [] => false
  | ['0'] => true
  | c :: rest => c != '0' && (c :: rest).all Char.isDigit

/-- At least one digit and nothing else. -/
def isDigits (s : List Char) : Bool :=
  !s.isEmpty && s.all Char.isDigit

def dropSign : List Char → List Char
  | '+' :: rest => rest
  | '-' :: rest => rest
  | s => s

/-- Whether a text is an exponent with its letter, or empty. -/
def isExponent : List Char → Bool
  | [] => true
  | c :: rest => (c == 'e' || c == 'E') && isDigits (dropSign rest)

/-- Whether a text is a fraction with its point, or empty, and then an exponent or nothing. -/
def isFraction : List Char → Bool
  | '.' :: rest =>
      isDigits (rest.takeWhile Char.isDigit) && isExponent (rest.dropWhile Char.isDigit)
  | rest => isExponent rest

/-- A number without sign as a token. -/
def unsigned? (negative : Bool) (s : List Char) : Option Token :=
  let whole := s.takeWhile Char.isDigit
  let rest := s.dropWhile Char.isDigit
  if !isWhole whole then none
  else if rest.isEmpty then
    some (.integer (if negative then -(digitsValue whole : Int) else digitsValue whole))
  else if isFraction rest then
    some (.decimal (String.ofList (if negative then '-' :: s else s)))
  else none

def number? : List Char → Option Token
  | '-' :: rest => unsigned? true rest
  | s => unsigned? false s

/-- The characters that occur in numbers. -/
def isNumberChar (c : Char) : Bool :=
  c.isDigit || c == '-' || c == '+' || c == '.' || c == 'e' || c == 'E'

/-! ## Scanning -/

/-- The characters between tokens. -/
def isSpace (c : Char) : Bool :=
  c == ' ' || c == '\t' || c == '\n' || c == '\r'

/-- The token at the start of a text and what follows it, which is shorter. -/
def token? : List Char → Option (Token × List Char)
  | '[' :: rest => some (.openArray, rest)
  | ']' :: rest => some (.closeArray, rest)
  | '\x7b' :: rest => some (.openObject, rest)
  | '\x7d' :: rest => some (.closeObject, rest)
  | ',' :: rest => some (.comma, rest)
  | ':' :: rest => some (.colon, rest)
  | 'n' :: 'u' :: 'l' :: 'l' :: rest => some (.null, rest)
  | 't' :: 'r' :: 'u' :: 'e' :: rest => some (.bool true, rest)
  | 'f' :: 'a' :: 'l' :: 's' :: 'e' :: rest => some (.bool false, rest)
  | '"' :: rest => (literal? rest).map fun (s, rest) => (.string (String.ofList s), rest)
  | c :: rest =>
      if isNumberChar c then
        (number? (c :: rest.takeWhile isNumberChar)).map fun token =>
          (token, rest.dropWhile isNumberChar)
      else none
  | [] => none

/-- The tokens of a text, read with at most `bound` steps. -/
def tokensWithin? : Nat → List Char → Option (List Token)
  | _, [] => some []
  | 0, _ :: _ => none
  | bound + 1, c :: rest =>
      if isSpace c then tokensWithin? bound rest
      else match token? (c :: rest) with
        | none => none
        | some (token, rest) => (tokensWithin? bound rest).map (token :: ·)

/-- The tokens of a text. Every step takes at least one character, so the length is enough. -/
def tokens? (s : List Char) : Option (List Token) :=
  tokensWithin? s.length s

end ModuleId.Json
