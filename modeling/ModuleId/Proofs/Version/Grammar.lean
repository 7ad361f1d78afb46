import ModuleId.Proofs.Version.Reader
import ModuleId.Version.Canonical

/-! # The grammar of versions

The forms `vMAJOR`, `vMAJOR.MINOR` and `vMAJOR.MINOR.PATCH[-PRERELEASE][+BUILD]`, as a relation
between the parts of a version and its text. -/

namespace ModuleId

open Text

/-- The parts that stand in the text of a version, without the marks between them. -/
@[ext]
structure VersionParts where
  major : List Char
  minor : Option (List Char)
  patch : Option (List Char)
  prerelease : Option (List Char)
  build : Option (List Char)

inductive IsWritten : VersionParts → List Char → Prop
  | short {major} (hmajor : IsNumeral major) :
      IsWritten ⟨major, none, none, none, none⟩ ('v' :: major)
  | shortMinor {major minor} (hmajor : IsNumeral major) (hminor : IsNumeral minor) :
      IsWritten ⟨major, some minor, none, none, none⟩ ('v' :: major ++ '.' :: minor)
  | full {major minor patch prerelease build} (hmajor : IsNumeral major)
      (hminor : IsNumeral minor) (hpatch : IsNumeral patch)
      (hprerelease : ∀ s ∈ prerelease, IsDotSeparated IsPrereleaseIdentifier s)
      (hbuild : ∀ s ∈ build, IsDotSeparated IsBuildIdentifier s) :
      IsWritten ⟨major, some minor, some patch, prerelease, build⟩
        ('v' :: major ++ '.' :: minor ++ '.' :: patch ++ behind '-' prerelease ++ behind '+' build)

/-! ## Parts of a version -/

/-- A part that may be missing is a list of words, none of them when it is missing. -/
theorem forall_isDotSeparated_iff {p : List Char → Prop} {s : Option (List Char)} :
    (∀ t ∈ s, IsDotSeparated p t) ↔ ∃ words : List {t // p t}, s = joined (words.map (·.val)) := by
  constructor
  · intro h
    cases s with
    | none => exact ⟨[], rfl⟩
    | some t =>
        obtain ⟨words, hne, hwords, ht⟩ := h t rfl
        refine ⟨words.attachWith p hwords, ?_⟩
        rw [List.attachWith_map_subtype_val, joined_eq_some_iff.mpr ⟨hne, ht⟩]
  · rintro ⟨words, rfl⟩ t ht
    obtain ⟨hne, rfl⟩ := joined_eq_some_iff.mp ht
    refine ⟨words.map (·.val), hne, ?_, rfl⟩
    intro word hword
    obtain ⟨w, -, rfl⟩ := List.mem_map.mp hword
    exact w.property

namespace Version

/-- The parts that are written out. -/
def parts : Version → VersionParts
  | short major => ⟨major.val, none, none, none, none⟩
  | shortMinor major minor => ⟨major.val, some minor.val, none, none, none⟩
  | full major minor patch prerelease build =>
      ⟨major.val, some minor.val, some patch.val, joined (prerelease.map (·.val)),
        joined (build.map (·.val))⟩

theorem text_short (major : Numeral) : (short major).text = 'v' :: major.val := by
  simp [text, numerals, prereleaseText, buildText, prerelease, build, marked]

theorem text_shortMinor (major minor : Numeral) :
    (shortMinor major minor).text = 'v' :: major.val ++ '.' :: minor.val := by
  simp [text, numerals, prereleaseText, buildText, prerelease, build, marked]

theorem text_full (major minor patch : Numeral) (pre : List PrereleaseIdentifier)
    (bld : List BuildIdentifier) :
    (full major minor patch pre bld).text =
      'v' :: major.val ++ '.' :: minor.val ++ '.' :: patch.val ++
        behind '-' (joined (pre.map (·.val))) ++ behind '+' (joined (bld.map (·.val))) := by
  simp [text, numerals, prereleaseText, buildText, prerelease, build, marked_eq_behind]

theorem isWritten_parts (v : Version) : IsWritten v.parts v.text := by
  cases v with
  | short major =>
      rw [text_short]
      exact .short major.property
  | shortMinor major minor =>
      rw [text_shortMinor]
      exact .shortMinor major.property minor.property
  | full major minor patch pre bld =>
      rw [text_full]
      exact .full major.property minor.property patch.property
        (forall_isDotSeparated_iff.mpr ⟨pre, rfl⟩) (forall_isDotSeparated_iff.mpr ⟨bld, rfl⟩)

/-! ## What the parts of a version are used for -/

theorem majorText_eq (v : Version) : v.majorText = 'v' :: v.parts.major := by
  cases v <;> rfl

theorem prereleaseText_eq (v : Version) : v.prereleaseText = behind '-' v.parts.prerelease := by
  cases v with
  | short major => rfl
  | shortMinor major minor => rfl
  | full major minor patch pre bld => exact marked_eq_behind '-' (pre.map (·.val))

theorem buildText_eq (v : Version) : v.buildText = behind '+' v.parts.build := by
  cases v with
  | short major => rfl
  | shortMinor major minor => rfl
  | full major minor patch pre bld => exact marked_eq_behind '+' (bld.map (·.val))

/-- The canonical form fills in the numerals that are left out and drops the build metadata. -/
theorem text_canonical (v : Version) :
    v.canonical.text = 'v' :: v.parts.major ++ '.' :: v.parts.minor.getD ['0'] ++
      '.' :: v.parts.patch.getD ['0'] ++ behind '-' v.parts.prerelease := by
  rw [canonical, text_full]
  cases v <;> simp [major, minor, patch, prerelease, parts, joined, behind, Numeral.zero]

end Version

/-- The texts of the grammar are the texts of versions, and their parts those of the version. -/
theorem isWritten_iff {parts : VersionParts} {s : List Char} :
    IsWritten parts s ↔ ∃ v, Version.parse? s = some v ∧ v.parts = parts := by
  simp only [Version.parse?_eq_some_iff]
  constructor
  · intro h
    cases h with
    | short hmajor => exact ⟨.short ⟨_, hmajor⟩, by rw [Version.text_short], rfl⟩
    | shortMinor hmajor hminor =>
        exact ⟨.shortMinor ⟨_, hmajor⟩ ⟨_, hminor⟩, by rw [Version.text_shortMinor], rfl⟩
    | full hmajor hminor hpatch hprerelease hbuild =>
        obtain ⟨pre, rfl⟩ := forall_isDotSeparated_iff.mp hprerelease
        obtain ⟨bld, rfl⟩ := forall_isDotSeparated_iff.mp hbuild
        exact ⟨.full ⟨_, hmajor⟩ ⟨_, hminor⟩ ⟨_, hpatch⟩ pre bld,
          by rw [Version.text_full], rfl⟩
  · rintro ⟨v, rfl, rfl⟩
    exact v.isWritten_parts

end ModuleId
