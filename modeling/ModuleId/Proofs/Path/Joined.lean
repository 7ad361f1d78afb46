import Mathlib
import ModuleId.Proofs.Path.Kinds
import ModuleId.Proofs.Path.Suffix

/-! # Paths joined by a slash

A slash between two texts makes no new fault and hides none: what is wrong with an end that it
touches, such as another slash or nothing at all, is wrong with that text alone. Only the suffix of
a module path depends on what follows. -/

namespace ModuleId

open Text

theorem toList_append_slash (p q : String) :
    (p ++ "/" ++ q).toList = p.toList ++ '/' :: q.toList := by
  simp

theorem checkPath_append_slash_iff {kind : PathKind} (hkind : kind ≠ .modulePath) (p q : String) :
    checkPath kind (p ++ "/" ++ q) = .ok () ↔
      checkPath kind p = .ok () ∧ checkPath kind q = .ok () := by
  simp only [checkPath_eq_ok_iff_scanFault? hkind, toList_append_slash,
    scanFault?_append_slash_iff]

/-- Only the suffix can be wrong with an import path behind a module path: the host is the same. -/
theorem checkPath_modulePath_append_slash {p q : String}
    (hp : checkPath .modulePath p = .ok ()) (hq : checkPath .importPath q = .ok ()) :
    checkPath .modulePath (p ++ "/" ++ q) = .ok () ∨
      FailsWith .modulePath (p ++ "/" ++ q) .invalidVersionSuffix := by
  obtain ⟨hscan, hhost, -⟩ := (checkPath_modulePath_eq_ok_iff p).mp hp
  apply checkPath_or_failsWith_invalidVersionSuffix
  · rw [toList_append_slash, scanFault?_append_slash_iff]
    exact ⟨hscan, (scanFault?_modulePath _).trans (scanFault?_eq_none_of_checkPath hq)⟩
  · rw [toList_append_slash, host_append_slash]
    exact hhost

/-- Texts joined by a slash are an import path or a file path exactly when both are. An import path
behind a module path gives an import path, which is a module path unless its suffix is malformed. -/
theorem checkPath_joined (p q : String) :
    (checkPath .importPath (p ++ "/" ++ q) = .ok () ↔
      checkPath .importPath p = .ok () ∧ checkPath .importPath q = .ok ()) ∧
    (checkPath .filePath (p ++ "/" ++ q) = .ok () ↔
      checkPath .filePath p = .ok () ∧ checkPath .filePath q = .ok ()) ∧
    (checkPath .modulePath p = .ok () → checkPath .importPath q = .ok () →
      checkPath .importPath (p ++ "/" ++ q) = .ok () ∧
        (checkPath .modulePath (p ++ "/" ++ q) = .ok () ∨
          FailsWith .modulePath (p ++ "/" ++ q) .invalidVersionSuffix)) := by
  have himport := checkPath_append_slash_iff (by decide : PathKind.importPath ≠ .modulePath) p q
  refine ⟨himport, checkPath_append_slash_iff (by decide) p q, ?_⟩
  intro hp hq
  refine ⟨himport.mpr ⟨?_, hq⟩, checkPath_modulePath_append_slash hp hq⟩
  exact mem_accepted_importPath_of_modulePath hp

/-- Behind the same module path one element makes a malformed suffix, and another does not. -/
theorem checkPath_joined_major :
    checkPath .modulePath "example.com/pkg" = .ok () ∧ checkPath .importPath "v1" = .ok () ∧
      checkPath .importPath ("example.com/pkg" ++ "/" ++ "v1") = .ok () ∧
      FailsWith .modulePath ("example.com/pkg" ++ "/" ++ "v1") .invalidVersionSuffix ∧
      checkPath .modulePath ("example.com/pkg" ++ "/" ++ "v2") = .ok () := by
  have hp : checkPath .modulePath "example.com/pkg" = .ok () := by decide +kernel
  have hq : checkPath .importPath "v1" = .ok () := by decide +kernel
  have hrefused : checkPath .modulePath ("example.com/pkg" ++ "/" ++ "v1") ≠ .ok () := by
    decide +kernel
  obtain ⟨-, -, hjoined⟩ := checkPath_joined "example.com/pkg" "v1"
  obtain ⟨himport, hmodule⟩ := hjoined hp hq
  exact ⟨hp, hq, himport, hmodule.resolve_left hrefused, by decide +kernel⟩

end ModuleId
