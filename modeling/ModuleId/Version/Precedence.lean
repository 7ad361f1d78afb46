import ModuleId.Version.Parse

/-! # Precedence

Precedence ranks versions by their numerals and then by their prerelease; build metadata takes
no part. Numerals of any size are compared as text, which is right because they have no leading
zeros. -/

namespace ModuleId

/-- The order of numerals: the longer is the greater, and digits decide between equal lengths. -/
def numeralOrder : List Char → List Char → Ordering :=
  compareLex (compareOn List.length) compare

/-- Whether an identifier is a numeral. -/
def isNumeric (s : List Char) : Bool :=
  s.all Char.isDigit

/-- Numerals come before other identifiers, which are ordered by their characters. -/
def identifierOrder (a b : PrereleaseIdentifier) : Ordering :=
  match isNumeric a.val, isNumeric b.val with
  | true, true => numeralOrder a.val b.val
  | true, false => .lt
  | false, true => .gt
  | false, false => compare a.val b.val

/-- Any prerelease comes before the release itself. Otherwise the first identifiers that differ
decide, and a list comes before its continuations. -/
def prereleaseOrder : List PrereleaseIdentifier → List PrereleaseIdentifier → Ordering
  | [], [] => .eq
  | [], _ :: _ => .gt
  | _ :: _, [] => .lt
  | a :: as, b :: bs => (a :: as).compareLex identifierOrder (b :: bs)

def Version.precedence (v w : Version) : Ordering :=
  (numeralOrder v.major.val w.major.val).then <|
    (numeralOrder v.minor.val w.minor.val).then <|
      (numeralOrder v.patch.val w.patch.val).then <|
        prereleaseOrder v.prerelease w.prerelease

/-- Precedence of texts. The texts that are no versions rank equal, below every version. -/
def textPrecedence (a b : List Char) : Ordering :=
  match Version.parse? a, Version.parse? b with
  | none, none => .eq
  | none, some _ => .lt
  | some _, none => .gt
  | some v, some w => v.precedence w

/-- Precedence of strings, as for texts. -/
def compareVersions (a b : String) : Ordering :=
  textPrecedence a.toList b.toList

end ModuleId
