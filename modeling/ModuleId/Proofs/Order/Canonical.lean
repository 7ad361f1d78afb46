import Mathlib.Data.Option.Basic
import ModuleId.Proofs.Order.Precedence
import ModuleId.Proofs.Version.Reader
import ModuleId.Version.Canonical

/-! # Equal precedence

The order of numerals and the order of identifiers rank different words apart. So versions rank
equal only when they agree in everything that is compared, which is everything that a canonical
version keeps. Texts that are no versions have no canonical form and rank equal as well. -/

namespace ModuleId

open Std

/-! ## Words -/

instance : LawfulEqCmp numeralOrder where
  eq_of_compare h := by
    simp only [numeralOrder, compareLex_eq_eq, LawfulEqCmp.compare_eq_iff_eq] at h
    exact h.2

instance : LawfulEqCmp identifierOrder where
  eq_of_compare h := by
    rw [identifierOrder_eq_compareLex] at h
    simp only [compareLex_eq_eq, compareOn, LawfulEqCmp.compare_eq_iff_eq] at h
    obtain ⟨-, -, htext⟩ := h
    exact Subtype.ext htext

instance : LawfulEqCmp prereleaseOrder where
  eq_of_compare h := by
    rw [prereleaseOrder_eq_compareLex] at h
    simp only [compareLex_eq_eq, LawfulEqCmp.compare_eq_iff_eq] at h
    exact h.2

/-! ## Versions and texts -/

namespace Version

/-- Versions that rank equal differ at most in what their canonical forms leave out. -/
theorem precedence_eq_eq_iff {v w : Version} :
    v.precedence w = .eq ↔ v.canonical = w.canonical := by
  simp only [precedence, canonical, Ordering.then_eq_eq, LawfulEqCmp.compare_eq_iff_eq,
    Subtype.ext_iff, full.injEq, and_true]

end Version

theorem textPrecedence_eq_eq_iff {s t : List Char} :
    textPrecedence s t = .eq ↔
      (Version.parse? s).map Version.canonical = (Version.parse? t).map Version.canonical := by
  unfold textPrecedence
  cases Version.parse? s with
  | none => cases Version.parse? t <;> simp
  | some v =>
      cases Version.parse? t with
      | none => simp
      | some w => simp [Version.precedence_eq_eq_iff]

/-- Texts have the same canonical form when the versions that they are read as have it. -/
theorem canonicalForm?_eq_canonicalForm?_iff {a b : String} :
    canonicalForm? a = canonicalForm? b ↔
      (Version.parse? a.toList).map Version.canonical =
        (Version.parse? b.toList).map Version.canonical := by
  have hinjective : Function.Injective fun v : Version => String.ofList v.text := by
    intro v w h
    exact Version.text_injective v w (String.ofList_injective h)
  have hform : ∀ s : String, canonicalForm? s =
      ((Version.parse? s.toList).map Version.canonical).map fun v => String.ofList v.text := by
    intro s
    rw [Option.map_map]
    rfl
  rw [hform, hform, (Option.map_injective hinjective).eq_iff]

theorem compareVersions_eq_eq_iff {a b : String} :
    compareVersions a b = .eq ↔ canonicalForm? a = canonicalForm? b := by
  rw [compareVersions, textPrecedence_eq_eq_iff, canonicalForm?_eq_canonicalForm?_iff]

instance : TransCmp compareVersions :=
  transCmp_pullback textPrecedence String.toList

/-- A text that is no version comes before every version. -/
theorem compareVersions_eq_lt_of_none {a b : String} (ha : Version.parse? a.toList = none)
    (hb : (Version.parse? b.toList).isSome = true) : compareVersions a b = .lt := by
  obtain ⟨w, hw⟩ := Option.isSome_iff_exists.mp hb
  rw [compareVersions, textPrecedence, ha, hw]

/-- Canonical forms are all that counts. -/
theorem compareVersions_congr {a b a' b' : String} (ha : canonicalForm? a = canonicalForm? a')
    (hb : canonicalForm? b = canonicalForm? b') : compareVersions a b = compareVersions a' b' := by
  calc compareVersions a b = compareVersions a' b :=
        TransCmp.congr_left (compareVersions_eq_eq_iff.mpr ha)
    _ = compareVersions a' b' := TransCmp.congr_right (compareVersions_eq_eq_iff.mpr hb)

/-- Precedence ranks any texts, in a preorder in which two texts are alike just when their canonical
forms are. The texts without a canonical form come first. -/
theorem compareVersions_preorder (a b c : String) :
    compareVersions b a = (compareVersions a b).swap ∧
      (compareVersions a b ≠ .gt → compareVersions b c ≠ .gt → compareVersions a c ≠ .gt) ∧
      (compareVersions a b = .eq ↔ canonicalForm? a = canonicalForm? b) ∧
      (Version.parse? a.toList = none → (Version.parse? b.toList).isSome = true →
        compareVersions a b = .lt) ∧
      ∀ a' b', canonicalForm? a = canonicalForm? a' → canonicalForm? b = canonicalForm? b' →
        compareVersions a b = compareVersions a' b' := by
  refine ⟨OrientedCmp.eq_swap, ?_, compareVersions_eq_eq_iff, compareVersions_eq_lt_of_none, ?_⟩
  · intro hab hbc
    apply Ordering.ne_gt_iff_isLE.mpr
    exact TransCmp.isLE_trans (Ordering.ne_gt_iff_isLE.mp hab) (Ordering.ne_gt_iff_isLE.mp hbc)
  · intro a' b' ha hb
    exact compareVersions_congr ha hb

/-- Build metadata and a numeral that is left out make no difference. -/
theorem compareVersions_preorder_candidate :
    compareVersions "latest" "v1.0.0-rc.1+linux" = .lt ∧
      compareVersions "v1.0.0-rc.1+linux" "v1.0" ≠ .gt ∧
      compareVersions "v1.0" "v1.0.1-0" ≠ .gt ∧
      compareVersions "v1.0.0-rc.1+linux" "v1.0.1-0" ≠ .gt ∧
      canonicalForm? "v1.0.0-rc.1+linux" = canonicalForm? "v1.0.0-rc.1" ∧
      canonicalForm? "v1.0" = canonicalForm? "v1.0.0" ∧
      compareVersions "v1.0.0-rc.1+linux" "v1.0" = compareVersions "v1.0.0-rc.1" "v1.0.0" := by
  have hnone : Version.parse? "latest".toList = none := by decide
  have hsome : (Version.parse? "v1.0.0-rc.1+linux".toList).isSome = true := by decide
  have hab : compareVersions "v1.0.0-rc.1+linux" "v1.0" ≠ .gt := by decide
  have hbc : compareVersions "v1.0" "v1.0.1-0" ≠ .gt := by decide
  have hbuild : canonicalForm? "v1.0.0-rc.1+linux" = canonicalForm? "v1.0.0-rc.1" := by decide
  have hshort : canonicalForm? "v1.0" = canonicalForm? "v1.0.0" := by decide
  obtain ⟨-, -, -, hfirst, -⟩ := compareVersions_preorder "latest" "v1.0.0-rc.1+linux" ""
  obtain ⟨-, htrans, -, -, hcongr⟩ :=
    compareVersions_preorder "v1.0.0-rc.1+linux" "v1.0" "v1.0.1-0"
  exact ⟨hfirst hnone hsome, hab, hbc, htrans hab hbc, hbuild, hshort, hcongr _ _ hbuild hshort⟩

end ModuleId
