import ModuleId.Release.Order
import ModuleId.Proofs.Order.Precedence

/-! # The order of releases is total

Precedence ranks many versions equal, such as all texts that are no versions. The tag and the text
of the version decide between them, so only equal releases rank equal. -/

namespace ModuleId.Release

open Std

instance : TransCmp order :=
  haveI := transCmp_pullback textPrecedence untaggedVersion
  inferInstanceAs <| TransCmp <|
    compareLex (compareOn path) <|
      compareLex (fun a b => textPrecedence a.untaggedVersion b.untaggedVersion) <|
        compareLex (compareOn tag) (compareOn version)

/-- Releases that rank equal have the same path and the same version. -/
theorem eq_of_order_eq_eq {a b : Release} (h : order a b = .eq) : a = b := by
  simp only [order, compareLex_eq_eq, compareOn, LawfulEqCmp.compare_eq_iff_eq] at h
  obtain ⟨hpath, -, -, hversion⟩ := h
  exact Release.ext hpath hversion

instance : LawfulEqCmp order where
  eq_of_compare := eq_of_order_eq_eq

/-- Any two releases are ranked in one way only, whatever their versions are. -/
theorem order_total (a b c : Release) :
    order a a = .eq ∧
      order b a = (order a b).swap ∧
      ((order a b).isLE → (order b c).isLE →
        (order a c).isLE ∧ (order a b = .lt ∨ order b c = .lt → order a c = .lt)) ∧
      (order a b = .eq ↔ a.path = b.path ∧ a.version = b.version) := by
  refine ⟨ReflCmp.compare_self, OrientedCmp.eq_swap, ?_, ?_⟩
  · intro hab hbc
    refine ⟨TransCmp.isLE_trans hab hbc, ?_⟩
    intro hlt
    rcases hlt with hlt | hlt
    · exact TransCmp.lt_of_lt_of_isLE hlt hbc
    · exact TransCmp.lt_of_isLE_of_lt hab hlt
  · rw [← Release.ext_iff]
    exact LawfulEqCmp.compare_eq_iff_eq

end ModuleId.Release
