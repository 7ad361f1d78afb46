import Mathlib.Control.Monad.Basic
import ModuleId.Proofs.Version.Canonical

/-! # Checking a version in its canonical form

The check of a release reads a version in three ways: it looks for the beginning of an untagged
revision in the text, at the major version, and at the incompatible mark. The form in which the
version is released agrees with it in all three, so the check decides alike on both. -/

namespace ModuleId

open Text

namespace Version

/-- With a prerelease all three numerals are written out. -/
theorem coreText_canonicalRelease {v : Version} (h : v.prerelease ≠ []) :
    v.canonicalRelease.coreText = v.coreText := by
  cases v with
  | short major => exact (h rfl).elim
  | shortMinor major minor => exact (h rfl).elim
  | full major minor patch pre bld => rfl

/-- The dash of an untagged revision is the one that opens the prerelease, and not one inside of
the build metadata. -/
theorem untagged_isPrefixOf_text_iff (v : Version) :
    untagged.isPrefixOf v.text = true ↔ v.coreText = "0.0.0".toList ∧ v.prerelease ≠ [] := by
  rw [List.isPrefixOf_iff_prefix]
  constructor
  · intro ⟨rest, h⟩
    have htext : v.coreText ++ v.prereleaseText ++ v.buildText = "0.0.0".toList ++ '-' :: rest :=
      (List.cons.inj h).2.symm
    have hrelease : v.coreText ++ v.prereleaseText = "0.0.0".toList ++ '-' :: (cut '+' rest).1 :=
      (congrArg Prod.fst v.cut_plus).symm.trans (congrArg (fun s => (cut '+' s).1) htext)
    have hcut := v.cut_dash
    rw [hrelease, cut_append (by decide), Prod.mk.injEq] at hcut
    obtain ⟨hcore, hprerelease⟩ := hcut
    refine ⟨hcore.symm, ?_⟩
    intro hnil
    simp [hnil, joined] at hprerelease
  · intro h
    obtain ⟨hcore, hprerelease⟩ := h
    obtain ⟨first, others, hfirst⟩ := List.exists_cons_of_ne_nil hprerelease
    rw [text_eq, hcore, prereleaseText, hfirst]
    exact ⟨_, rfl⟩

theorem untagged_isPrefixOf_canonicalRelease (v : Version) :
    untagged.isPrefixOf v.canonicalRelease.text = untagged.isPrefixOf v.text := by
  rw [Bool.eq_iff_iff, untagged_isPrefixOf_text_iff, untagged_isPrefixOf_text_iff]
  apply and_congr_left
  intro h
  have hcore : v.canonicalRelease.coreText = v.coreText := coreText_canonicalRelease h
  rw [hcore]

theorem goesWith_canonicalRelease (v : Version) (suffix : List Char) :
    v.canonicalRelease.goesWith suffix = v.goesWith suffix := by
  cases suffix with
  | nil =>
      rw [goesWith, goesWith, isIncompatible_canonicalRelease]
      rfl
  | cons mark number => rfl

end Version

theorem matchesSuffix_canonicalRelease (v : Version) (suffix : List Char) :
    matchesSuffix v.canonicalRelease.text suffix = matchesSuffix v.text suffix := by
  simp only [matchesSuffix, Version.parse?_text, v.untagged_isPrefixOf_canonicalRelease,
    v.goesWith_canonicalRelease]

/-- A version and its canonical form are both accepted, or both refused for the same rule of paths,
or both refused for the same major version that the path expects. -/
theorem checkRelease_canonicalVersion? (path : String) {version form : String}
    (h : canonicalVersion? version = some form) :
    (checkRelease path version = .ok () ∧ checkRelease path form = .ok ()) ∨
      (∃ fault, checkRelease path version = .error (.malformedPath .modulePath path fault) ∧
        checkRelease path form = .error (.malformedPath .modulePath path fault)) ∨
      ∃ want, checkRelease path version = .error (.mismatchedMajor path version want) ∧
        checkRelease path form = .error (.mismatchedMajor path form want) := by
  obtain ⟨v, hv, hform⟩ := parse?_of_canonicalVersion? h
  rw [checkRelease_of_parse? hv, checkRelease_of_parse? hform, matchesSuffix_canonicalRelease]
  cases hpath : checkPath .modulePath path with
  | error cause =>
      obtain ⟨fault, -, rfl⟩ := checkPath_eq_error_iff.mp hpath
      exact .inr (.inl ⟨fault, rfl, rfl⟩)
  | ok u =>
      cases hmatches : matchesSuffix v.text (pathSuffix path.toList) with
      | true => exact .inl ⟨rfl, rfl⟩
      | false => exact .inr (.inr ⟨_, rfl, rfl⟩)

/-- An untagged revision is accepted below `.v1` in both forms. A dash in the build metadata makes
no untagged revision, and goes away with the build metadata. -/
theorem checkRelease_canonicalVersion?_untagged :
    canonicalVersion? "v0.0.0-2019+a-b" = some "v0.0.0-2019" ∧
      checkRelease "gopkg.in/yaml.v1-unstable" "v0.0.0-2019+a-b" = .ok () ∧
      checkRelease "gopkg.in/yaml.v1-unstable" "v0.0.0-2019" = .ok () ∧
      canonicalVersion? "v0.0.0+a-b" = some "v0.0.0" ∧
      ∃ want, checkRelease "gopkg.in/yaml.v1" "v0.0.0+a-b" =
          .error (.mismatchedMajor "gopkg.in/yaml.v1" "v0.0.0+a-b" want) ∧
        checkRelease "gopkg.in/yaml.v1" "v0.0.0" =
          .error (.mismatchedMajor "gopkg.in/yaml.v1" "v0.0.0" want) := by
  have huntagged : canonicalVersion? "v0.0.0-2019+a-b" = some "v0.0.0-2019" := by decide +kernel
  have haccepted : checkRelease "gopkg.in/yaml.v1-unstable" "v0.0.0-2019+a-b" = .ok () := by
    decide +kernel
  have htagged : canonicalVersion? "v0.0.0+a-b" = some "v0.0.0" := by decide +kernel
  have hrefused : checkRelease "gopkg.in/yaml.v1" "v0.0.0+a-b" =
      .error (.mismatchedMajor "gopkg.in/yaml.v1" "v0.0.0+a-b" "v1") := by decide +kernel
  have hfirst := checkRelease_canonicalVersion? "gopkg.in/yaml.v1-unstable" huntagged
  have hsecond := checkRelease_canonicalVersion? "gopkg.in/yaml.v1" htagged
  simp only [haccepted, true_and, reduceCtorEq, false_and, exists_false, or_false] at hfirst
  simp only [hrefused, reduceCtorEq, false_and, exists_false, false_or, Except.error.injEq] at hsecond
  exact ⟨huntagged, haccepted, hfirst, htagged, _, hrefused, by simpa using hsecond⟩

end ModuleId
