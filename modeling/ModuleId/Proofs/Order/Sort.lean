import ModuleId.Proofs.Order.Release

/-! # Sorting releases

The order of releases leaves no choice between two arrangements of the same releases, so what
sorting returns depends on the releases alone and not on how they were arranged before. -/

namespace ModuleId.Release

open List Std

/-- Every release ranks no higher than any later one. -/
def IsAscending (releases : List Release) : Prop :=
  releases.Pairwise fun a b => (order a b).isLE

theorem sort_perm (releases : List Release) : sort releases ~ releases :=
  List.mergeSort_perm releases _

theorem sort_isAscending (releases : List Release) : IsAscending (sort releases) := by
  apply List.pairwise_mergeSort
  · intro a b c hab hbc
    exact TransCmp.isLE_trans hab hbc
  · intro a b
    have hswap : order b a = (order a b).swap := OrientedCmp.eq_swap
    rw [hswap]
    cases order a b <;> rfl

/-- Two ascending arrangements of the same releases are equal. -/
theorem IsAscending.eq_of_perm {xs ys : List Release} (hxs : IsAscending xs)
    (hys : IsAscending ys) (h : xs ~ ys) : xs = ys := by
  refine h.eq_of_pairwise ?_ hxs hys
  intro a b _ _ hab hba
  exact eq_of_order_eq_eq (OrientedCmp.isLE_antisymm hab hba)

theorem sort_eq_sort_iff (xs ys : List Release) : sort xs = sort ys ↔ xs ~ ys := by
  constructor
  · intro h
    exact (sort_perm xs).symm.trans (h ▸ sort_perm ys)
  · intro h
    exact (sort_isAscending xs).eq_of_perm (sort_isAscending ys)
      ((sort_perm xs).trans (h.trans (sort_perm ys).symm))

/-- Sorting arranges the releases it is given in ascending order. The result is the same for every
arrangement of them, and for no other list. -/
theorem sort_perm_pairwise_unique (releases : List Release) :
    sort releases ~ releases ∧
      (sort releases).Pairwise (fun a b => (order a b).isLE) ∧
      (∀ others, sort others = sort releases ↔ others ~ releases) ∧
      sort (sort releases) = sort releases :=
  ⟨sort_perm releases, sort_isAscending releases, fun others => sort_eq_sort_iff others releases,
    (sort_eq_sort_iff _ _).mpr (sort_perm releases)⟩

end ModuleId.Release
