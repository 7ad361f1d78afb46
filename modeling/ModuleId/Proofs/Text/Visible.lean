import Mathlib
import ModuleId.Proofs.Path.Grammar
import ModuleId.Proofs.Version.FileName
import ModuleId.Text.Blank

/-! # Visible characters

Module paths and versions are written in visible ASCII characters, so they hold neither blanks nor
controls. -/

namespace ModuleId

open Text

namespace Text

/-- The ASCII characters from `!` to `~`, which leave a mark and take up one column. -/
def isVisible (c : Char) : Bool :=
  0x21 ≤ c.toNat && c.toNat ≤ 0x7E

theorem isVisible_iff {c : Char} : isVisible c = true ↔ 0x21 ≤ c.toNat ∧ c.toNat ≤ 0x7E := by
  simp [isVisible]

theorem isVisible_of_isAlphanum {c : Char} (h : c.isAlphanum = true) : isVisible c = true := by
  simp only [Char.isAlphanum, Char.isAlpha, Char.isUpper, Char.isLower, Char.isDigit,
    Bool.or_eq_true, Bool.and_eq_true, decide_eq_true_eq, UInt32.le_iff_toNat_le, ge_iff_le] at h
  change ((65 ≤ c.toNat ∧ c.toNat ≤ 90) ∨ (97 ≤ c.toNat ∧ c.toNat ≤ 122)) ∨
    (48 ≤ c.toNat ∧ c.toNat ≤ 57) at h
  rw [isVisible_iff]
  omega

/-- Every blank is the space, a control or beyond ASCII. -/
theorem isBlank_eq_false_of_isVisible {c : Char} (h : isVisible c = true) : isBlank c = false := by
  rw [isVisible_iff] at h
  have hapart : ∀ r ∈ blankRanges, r.last < 0x21 ∨ 0x7E < r.first := by decide
  rw [← Bool.not_eq_true, isBlank, inTable_iff]
  intro hblank
  obtain ⟨r, hr, hfirst, hlast⟩ := hblank
  have := hapart r hr
  omega

end Text

/-- Every character of a module path is visible. -/
theorem isVisible_of_checkPath {path : String} (h : checkPath .modulePath path = .ok ()) :
    ∀ c ∈ path.toList, isVisible c = true := by
  have hpunctuation : importPunctuation.all isVisible = true := by decide
  intro c hc
  rcases eq_slash_or_allows_of_scanFault?_eq_none (scanFault?_eq_none_of_checkPath h) hc with
    hslash | hallowed
  · rw [hslash]
    decide
  · rcases Bool.or_eq_true_iff.mp hallowed with halphanum | hmark
    · exact isVisible_of_isAlphanum halphanum
    · exact List.all_eq_true.mp hpunctuation c (List.contains_iff_mem.mp hmark)

/-- Every character of a version is visible. -/
theorem isVisible_of_parse? {s : List Char} {v : Version} (h : Version.parse? s = some v) :
    ∀ c ∈ s, isVisible c = true := by
  rw [Version.parse?_eq_some_iff.mp h]
  intro c hc
  rcases Version.mem_text hc with hidentifier | rfl | rfl
  · rcases Bool.or_eq_true_iff.mp hidentifier with halphanum | hdash
    · exact isVisible_of_isAlphanum halphanum
    · rw [beq_iff_eq.mp hdash]
      decide
  · decide
  · decide

end ModuleId
