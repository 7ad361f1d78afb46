import ModuleId.Proofs.Path.Grammar
import ModuleId.Proofs.Version.Reader
import ModuleId.Release.Check

/-! # What the check of releases accepts -/

namespace ModuleId

open Text

/-! ## Suffixes and major versions -/

namespace Version

/-- Whether the major version is one of the first two, for which paths have no suffix. -/
def IsInitial (v : Version) : Prop :=
  v.majorText = ['v', '0'] ∨ v.majorText = ['v', '1']

instance : DecidablePred IsInitial := fun _ => inferInstanceAs (Decidable (_ ∨ _))

theorem isIncompatible_iff (v : Version) :
    v.isIncompatible = true ↔ v.buildText = "+incompatible".toList := by
  have hwords : optionalWords? IsBuildIdentifier (some "incompatible".toList) =
      some [BuildIdentifier.incompatible] := by decide
  have hbuild : optionalWords? IsBuildIdentifier (some "incompatible".toList) = some v.build ↔
      "+incompatible".toList = v.buildText :=
    optionalWords?_eq_some_iff (fun _ => dot_not_mem_of_isBuildIdentifier) '+'
  rw [hwords, Option.some.injEq] at hbuild
  rw [isIncompatible, beq_iff_eq, eq_comm, hbuild, eq_comm]

theorem goesWith_nil_iff (v : Version) :
    v.goesWith [] = true ↔ v.IsInitial ∨ v.isIncompatible = true := by
  simp [goesWith, IsInitial, or_assoc]

theorem goesWith_slash_iff (v : Version) (number : List Char) :
    v.goesWith ('/' :: 'v' :: number) = true ↔ number = v.major.val := by
  simp [goesWith, majorText]

end Version

/-- Untagged revisions and unstable marks count with dotted suffixes only. -/
theorem matchesSuffix_eq_goesWith {version suffix : List Char} {v : Version}
    (hv : Version.parse? version = some v) (hsuffix : suffix.head? ≠ some '.') :
    matchesSuffix version suffix = v.goesWith suffix := by
  have hstable : stableSuffix suffix = suffix := by
    cases suffix with
    | nil => rfl
    | cons c rest => simp [stableSuffix, Ne.symm (by simpa using hsuffix : c ≠ '.')]
  have hne : suffix ≠ ['.', 'v', '1'] := by
    intro h
    exact hsuffix (by rw [h]; rfl)
  simp [matchesSuffix, hstable, hne, hv]

/-! ## Releases -/

/-- A release is accepted exactly when its path is a module path, its version is a version, and
the version goes with the suffix of the path. -/
theorem checkRelease_eq_ok_iff (path version : String) :
    checkRelease path version = .ok () ↔
      checkPath .modulePath path = .ok () ∧
        ∃ v, Version.parse? version.toList = some v ∧
          matchesSuffix version.toList (pathSuffix path.toList) = true := by
  unfold checkRelease
  cases checkPath .modulePath path with
  | error cause => simp [bind, Except.bind]
  | ok u =>
      cases Version.parse? version.toList with
      | none => simp [bind, Except.bind]
      | some v => cases matchesSuffix version.toList (pathSuffix path.toList) <;>
          simp [bind, Except.bind]

/-- The check of a version depends on its text only in whether it goes with the suffix, and in the
text that a mismatch reports. -/
theorem checkRelease_of_parse? {path version : String} {v : Version}
    (h : Version.parse? version.toList = some v) :
    checkRelease path version = (checkPath .modulePath path).bind fun _ =>
      if matchesSuffix v.text (pathSuffix path.toList) then .ok ()
      else .error (.mismatchedMajor path version (wantedMajor (pathSuffix path.toList))) := by
  rw [← Version.parse?_eq_some_iff.mp h]
  unfold checkRelease
  rw [h]
  rfl

/-- A mismatch is reported only of a module path and a version, and asks for what the suffix of the
path expects. -/
theorem checkRelease_eq_mismatchedMajor_iff {path version path' version' want : String} :
    checkRelease path version = .error (.mismatchedMajor path' version' want) ↔
      checkPath .modulePath path = .ok () ∧ (Version.parse? version.toList).isSome = true ∧
        matchesSuffix version.toList (pathSuffix path.toList) = false ∧
          path' = path ∧ version' = version ∧ want = wantedMajor (pathSuffix path.toList) := by
  unfold checkRelease
  cases hpath : checkPath .modulePath path with
  | error cause =>
      obtain ⟨fault, -, rfl⟩ := checkPath_eq_error_iff.mp hpath
      simp [bind, Except.bind]
  | ok u =>
      cases Version.parse? version.toList with
      | none => simp [bind, Except.bind]
      | some v => cases matchesSuffix version.toList (pathSuffix path.toList) <;>
          simp [bind, Except.bind, eq_comm]

end ModuleId
