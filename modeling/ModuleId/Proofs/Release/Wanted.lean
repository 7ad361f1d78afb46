import Mathlib
import ModuleId.Proofs.Path.Grammar
import ModuleId.Proofs.Path.Suffix
import ModuleId.Proofs.Release.Check
import ModuleId.Proofs.Version.Grammar

/-! # The major version that a mismatch asks for

A version that does not go with the suffix of its path is refused with the major version that the
path expects. That major version is itself a version, and it is accepted. Only a path whose suffix
has no number between `.v` and the mark for unstable releases expects what nothing meets. -/

namespace ModuleId

open Text

/-! ## Versions that go with a suffix -/

/-- The versions that are a major version alone. -/
theorem parse?_short {number : List Char} (h : IsNumeral number) :
    Version.parse? ('v' :: number) = some (.short ⟨number, h⟩) :=
  Version.parse?_eq_some_iff.mpr (Version.text_short ⟨number, h⟩).symm

namespace NamesMajor

variable {suffix number : List Char}

/-- Without the mark for unstable releases a suffix is the major version behind one character. -/
theorem stableSuffix_eq (h : NamesMajor suffix number) :
    ∃ mark, (mark = '/' ∨ mark = '.') ∧ (cutUnstable suffix).1 = mark :: 'v' :: number ∧
      stableSuffix suffix = mark :: 'v' :: number := by
  cases h with
  | slashed h =>
      have hcut : cutUnstable ('/' :: 'v' :: number) = ('/' :: 'v' :: number, []) :=
        cutUnstable_append_digits h.1.1 h.1.2.1 ['/', 'v']
      exact ⟨'/', .inl rfl, by rw [hcut], by simp [stableSuffix]⟩
  | dotted h =>
      have hcut : cutUnstable ('.' :: 'v' :: number) = ('.' :: 'v' :: number, []) :=
        cutUnstable_append_digits h.1 h.2.1 ['.', 'v']
      exact ⟨'.', .inr rfl, by rw [hcut], by simp [stableSuffix, hcut]⟩
  | unstable h hne =>
      have hcut : cutUnstable ('.' :: 'v' :: (number ++ unstableMark.toList)) =
          ('.' :: 'v' :: number, unstableMark.toList) :=
        cutUnstable_append_mark ('.' :: 'v' :: number)
      exact ⟨'.', .inr rfl, by rw [hcut], by simp [stableSuffix, hcut]⟩

theorem wantedMajor_eq (h : NamesMajor suffix number) :
    wantedMajor suffix = String.ofList ('v' :: number) := by
  have hne : suffix ≠ [] := by cases h <;> simp
  obtain ⟨mark, -, hcut, -⟩ := h.stableSuffix_eq
  simp [wantedMajor, hne, hcut]

/-- The major version alone goes with the suffix that names it. -/
theorem matchesSuffix_major (h : NamesMajor suffix number) :
    matchesSuffix ('v' :: number) suffix = true := by
  obtain ⟨mark, hmark, -, hsuffix⟩ := h.stableSuffix_eq
  have hgoes : (Version.short ⟨number, h.isNumeral⟩).goesWith (mark :: 'v' :: number) = true := by
    simp [Version.goesWith, Version.majorText, Version.major, hmark]
  simp [matchesSuffix, hsuffix, parse?_short h.isNumeral, hgoes]

end NamesMajor

/-- No major version is written without a number. -/
theorem matchesSuffix_unnumberedSuffix (version : List Char) :
    matchesSuffix version unnumberedSuffix = false := by
  have hsuffix : stableSuffix unnumberedSuffix = ['.', 'v'] := by decide
  cases hv : Version.parse? version with
  | none => simp [matchesSuffix, hsuffix, hv]
  | some v =>
      have hmajor : v.major.val ≠ [] := v.major.property.1
      simp [matchesSuffix, hsuffix, hv, Version.goesWith, Version.majorText, hmajor]

/-- The first two major versions go with the path that has no suffix. -/
theorem matchesSuffix_initial {number : List Char} (h : number = ['0'] ∨ number = ['1']) :
    matchesSuffix ('v' :: number) [] = true := by
  rcases h with rfl | rfl
  · decide
  · decide

/-! ## What a mismatch asks for -/

/-- What a mismatch asks for is accepted: both of the first two major versions, or the one that is
named. -/
def IsAccepted (path want : String) : Prop :=
  (want = "v0 or v1" ∧ checkRelease path "v0" = .ok () ∧ checkRelease path "v1" = .ok ()) ∨
    (∃ major, Version.parse? want.toList = some (.short major)) ∧
      checkRelease path want = .ok ()

/-- A major version alone is accepted when it goes with the suffix. -/
theorem checkRelease_major {path : String} {number : List Char}
    (hpath : checkPath .modulePath path = .ok ()) (h : IsNumeral number)
    (hmatches : matchesSuffix ('v' :: number) (pathSuffix path.toList) = true) :
    checkRelease path (String.ofList ('v' :: number)) = .ok () := by
  rw [checkRelease_eq_ok_iff, String.toList_ofList]
  exact ⟨hpath, _, parse?_short h, hmatches⟩

/-- What a module path expects is accepted, unless its suffix has no number. -/
theorem isAccepted_wantedMajor {path : String} (hpath : checkPath .modulePath path = .ok ())
    (hsuffix : pathSuffix path.toList ≠ unnumberedSuffix) :
    IsAccepted path (wantedMajor (pathSuffix path.toList)) := by
  obtain ⟨-, -, hsome⟩ := (checkPath_modulePath_eq_ok_iff path).mp hpath
  obtain ⟨⟨stem, suffix⟩, hcut⟩ := Option.isSome_iff_exists.mp hsome
  obtain rfl : pathSuffix path.toList = suffix := by simp [pathSuffix, hcut]
  rcases suffix_of_cutMajor? hcut with hempty | hunnumbered | ⟨number, hnames⟩
  · refine .inl ⟨by rw [hempty]; rfl, ?_, ?_⟩
    · exact checkRelease_major hpath (by decide) (hempty ▸ matchesSuffix_initial (.inl rfl))
    · exact checkRelease_major hpath (by decide) (hempty ▸ matchesSuffix_initial (.inr rfl))
  · exact (hsuffix hunnumbered).elim
  · rw [hnames.wantedMajor_eq]
    refine .inr ⟨⟨⟨number, hnames.isNumeral⟩, ?_⟩, ?_⟩
    · rw [String.toList_ofList, parse?_short hnames.isNumeral]
    · exact checkRelease_major hpath hnames.isNumeral hnames.matchesSuffix_major

/-- No version is accepted below a suffix without a number. -/
theorem checkRelease_ne_ok_of_unnumbered {path : String}
    (h : pathSuffix path.toList = unnumberedSuffix) (version : String) :
    checkRelease path version ≠ .ok () := by
  intro hchecked
  obtain ⟨-, v, -, hmatches⟩ := (checkRelease_eq_ok_iff path version).mp hchecked
  rw [h, matchesSuffix_unnumberedSuffix] at hmatches
  contradiction

theorem not_isAccepted_of_unnumbered {path : String}
    (h : pathSuffix path.toList = unnumberedSuffix) (want : String) : ¬ IsAccepted path want := by
  rintro (⟨-, hchecked, -⟩ | ⟨-, hchecked⟩)
  · exact checkRelease_ne_ok_of_unnumbered h "v0" hchecked
  · exact checkRelease_ne_ok_of_unnumbered h want hchecked

theorem exists_checkRelease_of_isAccepted {path want : String} (h : IsAccepted path want) :
    ∃ version, checkRelease path version = .ok () := by
  rcases h with ⟨-, hchecked, -⟩ | ⟨-, hchecked⟩
  · exact ⟨"v0", hchecked⟩
  · exact ⟨want, hchecked⟩

/-- What a mismatch asks for is accepted, and every module path has an accepted version, exactly
when the suffix of the path is not the mark for unstable releases without a number. -/
theorem wanted_isAccepted_iff (path : String) :
    (∀ version path' version' want,
      checkRelease path version = .error (.mismatchedMajor path' version' want) →
        (IsAccepted path want ↔ pathSuffix path.toList ≠ unnumberedSuffix)) ∧
    (checkPath .modulePath path = .ok () →
      ((∃ version, checkRelease path version = .ok ()) ↔
        pathSuffix path.toList ≠ unnumberedSuffix)) := by
  refine ⟨?_, ?_⟩
  · intro version path' version' want h
    obtain ⟨hpath, -, -, -, -, rfl⟩ := checkRelease_eq_mismatchedMajor_iff.mp h
    refine ⟨?_, isAccepted_wantedMajor hpath⟩
    intro haccepted hunnumbered
    exact not_isAccepted_of_unnumbered hunnumbered _ haccepted
  · intro hpath
    refine ⟨?_, ?_⟩
    · rintro ⟨version, hchecked⟩ hunnumbered
      exact checkRelease_ne_ok_of_unnumbered hunnumbered version hchecked
    · intro hsuffix
      exact exists_checkRelease_of_isAccepted (isAccepted_wantedMajor hpath hsuffix)

/-- An unstable path of major version 2 asks for `v2`. -/
theorem wanted_isAccepted_iff_yaml :
    checkRelease "gopkg.in/yaml.v2-unstable" "v1.0.0" =
        .error (.mismatchedMajor "gopkg.in/yaml.v2-unstable" "v1.0.0" "v2") ∧
      IsAccepted "gopkg.in/yaml.v2-unstable" "v2" ∧
      ∃ version, checkRelease "gopkg.in/yaml.v2-unstable" version = .ok () := by
  have hmismatch : checkRelease "gopkg.in/yaml.v2-unstable" "v1.0.0" =
      .error (.mismatchedMajor "gopkg.in/yaml.v2-unstable" "v1.0.0" "v2") := by decide +kernel
  have hpath : checkPath .modulePath "gopkg.in/yaml.v2-unstable" = .ok () := by decide +kernel
  have hsuffix : pathSuffix "gopkg.in/yaml.v2-unstable".toList ≠ unnumberedSuffix := by
    decide +kernel
  obtain ⟨hwanted, hexists⟩ := wanted_isAccepted_iff "gopkg.in/yaml.v2-unstable"
  exact ⟨hmismatch, (hwanted _ _ _ _ hmismatch).mpr hsuffix, (hexists hpath).mpr hsuffix⟩

/-- A mismatch can ask for `v`, which is no version, for a module path without accepted versions. -/
theorem mismatch_wants_no_version :
    checkPath .modulePath "gopkg.in/x.v-unstable" = .ok () ∧
      checkRelease "gopkg.in/x.v-unstable" "v1.0.0" =
        .error (.mismatchedMajor "gopkg.in/x.v-unstable" "v1.0.0" "v") ∧
      ¬ IsAccepted "gopkg.in/x.v-unstable" "v" ∧
      ∀ version, checkRelease "gopkg.in/x.v-unstable" version ≠ .ok () := by
  have hsuffix : pathSuffix "gopkg.in/x.v-unstable".toList = unnumberedSuffix := by
    decide +kernel
  refine ⟨by decide +kernel, by decide +kernel, not_isAccepted_of_unnumbered hsuffix "v", ?_⟩
  exact checkRelease_ne_ok_of_unnumbered hsuffix

end ModuleId
