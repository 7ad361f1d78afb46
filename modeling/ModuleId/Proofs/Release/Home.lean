import Mathlib
import ModuleId.Proofs.Path.Grammar
import ModuleId.Proofs.Path.Suffix
import ModuleId.Proofs.Release.Check
import ModuleId.Proofs.Version.FileName

/-! # Each version has one home

The paths of a module differ in their suffixes. A version is accepted below the one whose suffix
names its major version, and below the path without a suffix when its major version is one of the
first two. Only an incompatible version is accepted below the path without a suffix in any case. -/

namespace ModuleId

open Text

/-! ## The paths of a module -/

/-- A module path without a suffix. The dotted host on its own is left out, since the paths that
continue it are split at a dot. -/
structure IsStem (stem : String) : Prop where
  accepted : checkPath .modulePath stem = .ok ()
  split : splitMajor? stem = some ⟨stem, ""⟩
  ne_dottedHost : stem ≠ "gopkg.in"

/-- The path of the releases of a major version. -/
def majorPath (stem : String) (number : List Char) : String :=
  stem ++ "/v" ++ String.ofList number

/-- A path and the paths that continue it with `/v` and digits. -/
def majorPaths (stem : String) : Set String :=
  {path | path = stem ∨
    ∃ number, number ≠ [] ∧ number.all Char.isDigit = true ∧ path = majorPath stem number}

/-- The paths of a module below which a version is accepted. -/
def homes (stem version : String) : Set String :=
  {path ∈ majorPaths stem | checkRelease path version = .ok ()}

theorem toList_majorPath (stem : String) (number : List Char) :
    (majorPath stem number).toList = stem.toList ++ '/' :: 'v' :: number := by
  simp [majorPath]

theorem majorPath_major (stem : String) (v : Version) :
    majorPath stem v.major.val = stem ++ "/" ++ String.ofList v.majorText := by
  simp [String.ext_iff, majorPath, Version.majorText]

theorem Version.isSuffixNumeral_major_iff (v : Version) :
    IsSuffixNumeral v.major.val ↔ ¬ v.IsInitial := by
  simp [IsSuffixNumeral, Version.IsInitial, Version.majorText, v.major.property]

theorem scanFault?_number {number : List Char} (h : number.all Char.isDigit = true) :
    scanFault? .modulePath ('v' :: number) = none := by
  have hdigit : ∀ c ∈ 'v' :: number, c = 'v' ∨ c.isDigit = true := by
    intro c hc
    exact (List.mem_cons.mp hc).imp_right (List.all_eq_true.mp h c)
  have hdots : DotsApart ('v' :: number) :=
    .of_not_mem fun hmem => absurd (hdigit _ hmem) (by decide)
  have hslash : '/' ∉ 'v' :: number := fun hmem => absurd (hdigit _ hmem) (by decide)
  have hallowed : ∀ c ∈ 'v' :: number, PathKind.modulePath.allows c = true := by
    intro c hc
    rcases hdigit c hc with rfl | hc
    · decide
    · simp [PathKind.allows, Char.isAlphanum, hc]
  have helement : IsElement .modulePath ('v' :: number) :=
    hdots.isElement (List.cons_ne_nil _ _) hallowed (isReserved_shortName_cons_v number)
  exact scanFault?_of_isElement helement hslash hdots.not_doubled

namespace IsStem

variable {stem version : String} {v : Version} {number : List Char}

theorem cutMajor?_eq (h : IsStem stem) : cutMajor? stem.toList = some (stem.toList, []) :=
  splitMajor?_eq_some_iff.mp h.split

theorem cutMajor?_majorPath (h : IsStem stem) (hne : number ≠ [])
    (hnumber : number.all Char.isDigit = true) :
    cutMajor? (majorPath stem number).toList =
      if IsSuffixNumeral number then some (stem.toList, '/' :: 'v' :: number) else none := by
  have hdotted := isDotted_eq_false_of_cutMajor? h.cutMajor?_eq
  have hhost : stem.toList ≠ "gopkg.in".toList := mt String.toList_inj.mp h.ne_dottedHost
  rw [toList_majorPath, cutMajor?, isDotted_append_slash hdotted hhost]
  exact cutSlashed?_append hne (isDigit_or_dot_of_all_isDigit hnumber)

/-- Of the paths that continue a stem, those are module paths that end in the numeral of a major
version from 2 on. -/
theorem checkPath_majorPath_iff (h : IsStem stem) (hne : number ≠ [])
    (hnumber : number.all Char.isDigit = true) :
    checkPath .modulePath (majorPath stem number) = .ok () ↔ IsSuffixNumeral number := by
  obtain ⟨hscan, hhostFault, -⟩ := (checkPath_modulePath_eq_ok_iff stem).mp h.accepted
  rw [checkPath_modulePath_eq_ok_iff, h.cutMajor?_majorPath hne hnumber, toList_majorPath,
    scanFault?_append_slash_iff, host_append_slash]
  by_cases hmajor : IsSuffixNumeral number
  · simp [hmajor, hscan, hhostFault, scanFault?_number hnumber]
  · simp [hmajor]

theorem checkRelease_majorPath_iff (h : IsStem stem)
    (hv : Version.parse? version.toList = some v) (hne : number ≠ [])
    (hnumber : number.all Char.isDigit = true) :
    checkRelease (majorPath stem number) version = .ok () ↔
      number = v.major.val ∧ ¬ v.IsInitial := by
  rw [checkRelease_eq_ok_iff, h.checkPath_majorPath_iff hne hnumber,
    ← v.isSuffixNumeral_major_iff]
  by_cases hmajor : IsSuffixNumeral number
  · have hsuffix : pathSuffix (majorPath stem number).toList = '/' :: 'v' :: number := by
      simp [pathSuffix, h.cutMajor?_majorPath hne hnumber, hmajor]
    have hmatches : matchesSuffix version.toList ('/' :: 'v' :: number) =
        v.goesWith ('/' :: 'v' :: number) := matchesSuffix_eq_goesWith hv (by simp)
    rw [hsuffix, hmatches, v.goesWith_slash_iff]
    constructor
    · intro hchecked
      obtain ⟨-, -, -, hnumber⟩ := hchecked
      exact ⟨hnumber, hnumber ▸ hmajor⟩
    · intro hnumber
      exact ⟨hmajor, v, hv, hnumber.1⟩
  · constructor
    · intro hchecked
      exact (hmajor hchecked.1).elim
    · intro hnumber
      exact (hmajor (hnumber.1 ▸ hnumber.2)).elim

theorem checkRelease_stem_iff (h : IsStem stem) (hv : Version.parse? version.toList = some v) :
    checkRelease stem version = .ok () ↔ v.IsInitial ∨ v.isIncompatible = true := by
  have hsuffix : pathSuffix stem.toList = [] := by simp [pathSuffix, h.cutMajor?_eq]
  have hmatches : matchesSuffix version.toList [] = v.goesWith [] :=
    matchesSuffix_eq_goesWith hv (by simp)
  simp [checkRelease_eq_ok_iff, h.accepted, hv, hsuffix, hmatches, v.goesWith_nil_iff]

theorem mem_homes_iff (h : IsStem stem) (hv : Version.parse? version.toList = some v)
    (path : String) :
    path ∈ homes stem version ↔
      path = stem ∧ (v.IsInitial ∨ v.isIncompatible = true) ∨
        path = stem ++ "/" ++ String.ofList v.majorText ∧ ¬ v.IsInitial := by
  constructor
  · intro hpath
    obtain ⟨rfl | ⟨number, hne, hnumber, rfl⟩, hchecked⟩ := hpath
    · exact .inl ⟨rfl, (h.checkRelease_stem_iff hv).mp hchecked⟩
    -- of all numbers only the major version itself is left
    · obtain ⟨rfl, hmajor⟩ := (h.checkRelease_majorPath_iff hv hne hnumber).mp hchecked
      exact .inr ⟨majorPath_major stem v, hmajor⟩
  · intro hpath
    rcases hpath with ⟨rfl, hgoes⟩ | ⟨rfl, hmajor⟩
    · exact ⟨.inl rfl, (h.checkRelease_stem_iff hv).mpr hgoes⟩
    · rw [← majorPath_major]
      obtain ⟨hne, hnumber, -⟩ := v.major.property
      exact ⟨.inr ⟨_, hne, hnumber, rfl⟩,
        (h.checkRelease_majorPath_iff hv hne hnumber).mpr ⟨rfl, hmajor⟩⟩

end IsStem

/-- A version that is not incompatible is accepted below exactly one of the paths of a module. An
incompatible version is accepted below the path without a suffix as well, and below no other. -/
theorem homes_eq {stem version : String} {v : Version} (h : IsStem stem)
    (hv : Version.parse? version.toList = some v) :
    (v.buildText ≠ "+incompatible".toList →
      homes stem version =
        {if v.IsInitial then stem else stem ++ "/" ++ String.ofList v.majorText}) ∧
    (v.buildText = "+incompatible".toList →
      homes stem version =
        {stem} ∪ if v.IsInitial then ∅ else {stem ++ "/" ++ String.ofList v.majorText}) := by
  have hhomes := h.mem_homes_iff hv
  rw [Ne, ← v.isIncompatible_iff]
  refine ⟨?_, ?_⟩
  · intro hcompatible
    ext path
    rw [hhomes]
    by_cases hinitial : v.IsInitial
    · simp [hinitial]
    · simp [hinitial, hcompatible]
  · intro hincompatible
    ext path
    rw [hhomes]
    by_cases hinitial : v.IsInitial
    · simp [hinitial]
    · simp [hinitial, hincompatible, or_comm]

/-- An incompatible release of major version 2 has two homes, and a compatible one has one. -/
theorem homes_eq_example_pkg :
    IsStem "example.com/pkg" ∧
      homes "example.com/pkg" "v2.1.0" = {"example.com/pkg/v2"} ∧
      homes "example.com/pkg" "v2.1.0+incompatible" =
        {"example.com/pkg"} ∪ {"example.com/pkg/v2"} := by
  have hstem : IsStem "example.com/pkg" := ⟨by decide +kernel, by decide +kernel, by decide⟩
  let release (build : List BuildIdentifier) : Version :=
    .full ⟨['2'], by decide⟩ ⟨['1'], by decide⟩ ⟨['0'], by decide⟩ [] build
  have hrelease : Version.parse? "v2.1.0".toList = some (release []) := by decide +kernel
  have hincompatible : Version.parse? "v2.1.0+incompatible".toList =
      some (release [BuildIdentifier.incompatible]) := by decide +kernel
  refine ⟨hstem, ?_, ?_⟩
  · rw [(homes_eq hstem hrelease).1 (by decide), if_neg (by decide)]
    rfl
  · rw [(homes_eq hstem hincompatible).2 (by decide), if_neg (by decide)]
    rfl

end ModuleId
