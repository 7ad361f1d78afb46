/-! # Semantic versions

A version is `v` and one, two or three numerals. Only the full form, with three, may go on with
prerelease identifiers behind `-` and build identifiers behind `+`. -/

namespace ModuleId

/-! ## Words of a version -/

/-- A nonempty run of digits that starts with `0` only when it is `0`. -/
def IsNumeral (s : List Char) : Prop :=
  s ≠ [] ∧ s.all Char.isDigit ∧ (s.head? = some '0' → s = ['0'])

instance : DecidablePred IsNumeral := fun _ => inferInstanceAs (Decidable (_ ∧ _ ∧ _))

/-- Identifiers consist of ASCII letters, digits and dashes. -/
def isIdentifierChar (c : Char) : Bool :=
  c.isAlphanum || c == '-'

/-- A nonempty identifier; leading zeros are allowed. -/
def IsBuildIdentifier (s : List Char) : Prop :=
  s ≠ [] ∧ s.all isIdentifierChar

instance : DecidablePred IsBuildIdentifier := fun _ => inferInstanceAs (Decidable (_ ∧ _))

/-- An identifier that is a numeral when it holds digits only. -/
def IsPrereleaseIdentifier (s : List Char) : Prop :=
  IsBuildIdentifier s ∧ (s.all Char.isDigit → IsNumeral s)

instance : DecidablePred IsPrereleaseIdentifier := fun _ => inferInstanceAs (Decidable (_ ∧ _))

abbrev Numeral := {s : List Char // IsNumeral s}

abbrev PrereleaseIdentifier := {s : List Char // IsPrereleaseIdentifier s}

abbrev BuildIdentifier := {s : List Char // IsBuildIdentifier s}

def Numeral.zero : Numeral :=
  ⟨['0'], by decide⟩

/-! ## Versions and their parts -/

inductive Version
  | short (major : Numeral)
  | shortMinor (major minor : Numeral)
  | full (major minor patch : Numeral) (prerelease : List PrereleaseIdentifier)
      (build : List BuildIdentifier)
deriving DecidableEq

namespace Version

def major : Version → Numeral
  | short major => major
  | shortMinor major _ => major
  | full major _ _ _ _ => major

/-- The second numeral, zero where it is left out. -/
def minor : Version → Numeral
  | short _ => Numeral.zero
  | shortMinor _ minor => minor
  | full _ minor _ _ _ => minor

/-- The third numeral, zero where it is left out. -/
def patch : Version → Numeral
  | full _ _ patch _ _ => patch
  | _ => Numeral.zero

def prerelease : Version → List PrereleaseIdentifier
  | full _ _ _ prerelease _ => prerelease
  | _ => []

def build : Version → List BuildIdentifier
  | full _ _ _ _ build => build
  | _ => []

/-! ## The text of a version -/

/-- Identifiers behind their marker and separated by dots; without identifiers, nothing. -/
def marked (marker : Char) : List (List Char) → List Char
  | [] => []
  | first :: rest => marker :: ['.'].intercalate (first :: rest)

/-- The major version on its own, such as `v2`. -/
def majorText (v : Version) : List Char :=
  'v' :: v.major.val

/-- The prerelease with its marker. -/
def prereleaseText (v : Version) : List Char :=
  marked '-' (v.prerelease.map (·.val))

/-- The build metadata with its marker. -/
def buildText (v : Version) : List Char :=
  marked '+' (v.build.map (·.val))

/-- The numerals that are written out. -/
def numerals : Version → List Numeral
  | short major => [major]
  | shortMinor major minor => [major, minor]
  | full major minor patch _ _ => [major, minor, patch]

def text (v : Version) : List Char :=
  'v' :: ['.'].intercalate (v.numerals.map (·.val)) ++ v.prereleaseText ++ v.buildText

end Version

end ModuleId
