import ModuleId.Text.Split
import ModuleId.Version.Basic

/-! # Reading versions

No numeral or identifier holds a `+`, and no numeral holds a `-`. So the first `+` ends what can
be prerelease, and the first `-` before it ends the numerals. -/

namespace ModuleId

open Text

/-- A text as one of those that satisfy `p`. -/
def word? (p : List Char → Prop) [DecidablePred p] (s : List Char) : Option {t // p t} :=
  if h : p s then some ⟨s, h⟩ else none

/-- The words between dots, each of which must satisfy `p`. -/
def words? (p : List Char → Prop) [DecidablePred p] (s : List Char) : Option (List {t // p t}) :=
  (s.splitOn '.').mapM (word? p)

theorem word?_eq_some_iff {p : List Char → Prop} [DecidablePred p] {s : List Char}
    {t : {t // p t}} : word? p s = some t ↔ s = t.val := by
  constructor
  · intro h
    by_cases hs : p s
    · simp only [word?, hs, dite_true, Option.some.injEq] at h
      exact congrArg Subtype.val h
    · simp [word?, hs] at h
  · rintro rfl
    simp [word?, t.property]

/-- The words of a part that may be missing. -/
def optionalWords? (p : List Char → Prop) [DecidablePred p] :
    Option (List Char) → Option (List {t // p t})
  | none => some []
  | some s => words? p s

/-- A version from its parts. Only three numerals may be followed by identifiers. -/
def Version.ofParts? (numerals : List Numeral) (prerelease build : Option (List Char)) :
    Option Version :=
  match numerals, prerelease, build with
  | [major], none, none => some (.short major)
  | [major, minor], none, none => some (.shortMinor major minor)
  | [major, minor, patch], prerelease, build => do
      let prerelease ← optionalWords? IsPrereleaseIdentifier prerelease
      let build ← optionalWords? IsBuildIdentifier build
      return .full major minor patch prerelease build
  | _, _, _ => none

def Version.parse? : List Char → Option Version
  | 'v' :: s =>
      let (release, build) := cut '+' s
      let (core, prerelease) := cut '-' release
      (words? IsNumeral core).bind fun numerals => Version.ofParts? numerals prerelease build
  | _ => none

end ModuleId
