import Mathlib
import ModuleId.Proofs.Escape.RoundTrip
import ModuleId.Proofs.Escape.Shape
import ModuleId.Proofs.Release.Check
import ModuleId.Proofs.Version.FileName

/-! # Cache keys

A release is kept under the escaped forms of its path and its version with `/@v/` between them.
The keys of checked releases are file paths without upper-case letters, and no two of them are
alike even where case makes no difference. -/

namespace ModuleId

open Text

/-! ## Both parts have escaped forms -/

theorem escapePath_of_checkPath {path : String} (h : checkPath .modulePath path = .ok ()) :
    escapePath path = .ok (String.ofList (escapeText path.toList)) :=
  (escapePath_eq_ok_iff _ _).mpr
    ⟨h, (escapeChecked_eq_ok_iff _ _).mpr ⟨isEscapable_of_checkPath h, by simp⟩⟩

theorem escapeVersion_of_parse? {version : String} {v : Version}
    (h : Version.parse? version.toList = some v) :
    escapeVersion version = .ok (String.ofList (escapeText version.toList)) :=
  (escapeVersion_eq_ok_iff _ _).mpr
    ⟨Version.elementFault?_of_parse? h,
      (escapeChecked_eq_ok_iff _ _).mpr ⟨Version.isEscapable_of_parse? h, by simp⟩⟩

namespace Release

/-- Where a cache keeps a release. -/
def cacheKey (r : Release) : Except ModuleError String := do
  let path ← escapePath r.path
  let version ← escapeVersion r.version
  return path ++ "/@v/" ++ version

/-- The key of a checked release, as a text. -/
def keyText (r : Release) : List Char :=
  escapeText r.path.toList ++ '/' :: (['@', 'v'] ++ '/' :: escapeText r.version.toList)

theorem cacheKey_of_check {r : Release} (h : r.check = .ok ()) :
    r.cacheKey = .ok (String.ofList r.keyText) := by
  obtain ⟨hpath, v, hv, -⟩ := (checkRelease_eq_ok_iff _ _).mp h
  rw [cacheKey, escapePath_of_checkPath hpath, escapeVersion_of_parse? hv]
  simp [bind, Except.bind, pure, Except.pure, keyText, String.ext_iff]

/-! ## Upper case -/

theorem isUpper_eq_false_of_mem_keyText {r : Release} {c : Char} (h : c ∈ r.keyText) :
    c.isUpper = false := by
  simp only [keyText, List.mem_append, List.mem_cons, List.not_mem_nil, or_false] at h
  rcases h with h | rfl | (rfl | rfl) | rfl | h
  · exact isUpper_eq_false_of_mem_escapeText h
  · rfl
  · rfl
  · rfl
  · rfl
  · exact isUpper_eq_false_of_mem_escapeText h

theorem lowerCase_keyText (r : Release) : lowerCase r.keyText = r.keyText := by
  have hkept : ∀ c ∈ r.keyText, c.toLower = c := by
    intro c hc
    exact Char.toLower_eq_of_not_isUpper (by simp [isUpper_eq_false_of_mem_keyText hc])
  exact (List.map_congr_left hkept).trans (List.map_id r.keyText)

/-! ## File paths -/

theorem scanFault?_keyText {r : Release} (h : r.check = .ok ()) :
    scanFault? .filePath r.keyText = none := by
  obtain ⟨hpath, v, hv, -⟩ := (checkRelease_eq_ok_iff _ _).mp h
  rw [keyText, Version.parse?_eq_some_iff.mp hv]
  simp only [scanFault?_append_slash_iff]
  refine ⟨scanFault?_escapeText (scanFault?_eq_none_of_checkPath hpath), by decide, ?_⟩
  exact scanFault?_escapeText v.scanFault?_text

/-! ## Distinct releases -/

/-- The first `@` of a key ends the path. -/
theorem keyText_injOn : Set.InjOn keyText {r | r.check = .ok ()} := by
  intro r hr s hs heq
  obtain ⟨hrpath, v, hv, -⟩ := (checkRelease_eq_ok_iff _ _).mp hr
  obtain ⟨hspath, w, hw, -⟩ := (checkRelease_eq_ok_iff _ _).mp hs
  -- a kept character that no module path holds, so it is not in the escaped path either
  have hcut : ∀ {r : Release}, checkPath .modulePath r.path = .ok () → cut '@' r.keyText =
      (escapeText r.path.toList ++ ['/'], some ('v' :: '/' :: escapeText r.version.toList)) := by
    intro r h
    refine cut_eq_iff.mpr ⟨?_, by simp [keyText, behind]⟩
    simp [mem_escapeText_iff (by decide : IsKept '@'), at_not_mem_of_checkPath h]
  have hparts := hcut hrpath
  rw [heq, hcut hspath, Prod.mk.injEq, Option.some.injEq] at hparts
  obtain ⟨hpath, hversion⟩ := hparts
  have hpath' : r.path.toList = s.path.toList :=
    escapeText_injOn (isEscapable_of_checkPath hrpath) (isEscapable_of_checkPath hspath)
      (List.append_cancel_right hpath).symm
  have hversion' : r.version.toList = s.version.toList :=
    escapeText_injOn (Version.isEscapable_of_parse? hv) (Version.isEscapable_of_parse? hw)
      (by simpa using hversion.symm)
  exact Release.ext (String.toList_inj.mp hpath') (String.toList_inj.mp hversion')

/-- A checked release has a cache key. The key has no upper-case letter, it is a file path, and the
key of no other checked release is the same in lower case. -/
theorem cacheKey_spec (r : Release) (h : r.check = .ok ()) :
    ∃ path version key, escapePath r.path = .ok path ∧ escapeVersion r.version = .ok version ∧
      r.cacheKey = .ok key ∧ key = path ++ "/@v/" ++ version ∧
      (∀ c ∈ key.toList, c.isUpper = false) ∧
      checkPath .filePath key = .ok () ∧
      (∀ element ∈ key.toList.splitOn '/', isReserved (shortName element) = false ∧
        element ≠ ['.'] ∧ element ≠ ['.', '.'] ∧ element.getLast? ≠ some '.') ∧
      ∀ s : Release, s.check = .ok () → s ≠ r →
        ∃ other, s.cacheKey = .ok other ∧ lowerCase other.toList ≠ lowerCase key.toList := by
  obtain ⟨hpath, v, hv, -⟩ := (checkRelease_eq_ok_iff _ _).mp h
  have hscan := scanFault?_keyText h
  refine ⟨_, _, _, escapePath_of_checkPath hpath, escapeVersion_of_parse? hv, cacheKey_of_check h,
    by simp [keyText, String.ext_iff], ?_, ?_, ?_, ?_⟩
  · intro c hc
    exact isUpper_eq_false_of_mem_keyText (by simpa using hc)
  · rw [checkPath_eq_ok_iff_scanFault? (by decide), String.toList_ofList]
    exact hscan
  · intro element helement
    rw [String.toList_ofList] at helement
    have h := ((scanFault?_eq_none_iff _ _).mp hscan).2 element helement
    refine ⟨h.not_reserved, ?_, ?_, h.last⟩
    · rintro rfl
      exact h.last rfl
    · rintro rfl
      exact h.last rfl
  · intro s hs hne
    refine ⟨_, cacheKey_of_check hs, ?_⟩
    rw [String.toList_ofList, String.toList_ofList, lowerCase_keyText, lowerCase_keyText]
    exact fun heq => hne (keyText_injOn hs h heq)

/-- Releases that differ in case alone have different keys. -/
theorem cacheKey_spec_case :
    let upper : Release := ⟨"github.com/Azure/go", "v1.2.0-RC1"⟩
    let lower : Release := ⟨"github.com/azure/go", "v1.2.0-rc1"⟩
    upper.check = .ok () ∧ lower.check = .ok () ∧ lower ≠ upper ∧
      ∃ key, upper.cacheKey = .ok key ∧ checkPath .filePath key = .ok () ∧
        ∃ other, lower.cacheKey = .ok other ∧ lowerCase other.toList ≠ lowerCase key.toList := by
  intro upper lower
  have hupper : upper.check = .ok () := by decide +kernel
  have hlower : lower.check = .ok () := by decide +kernel
  have hne : lower ≠ upper := by decide
  obtain ⟨-, -, key, -, -, hkey, -, -, hfile, -, hothers⟩ := cacheKey_spec upper hupper
  exact ⟨hupper, hlower, hne, key, hkey, hfile, hothers lower hlower hne⟩

end Release

end ModuleId
