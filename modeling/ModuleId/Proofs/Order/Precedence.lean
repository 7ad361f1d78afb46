import ModuleId.Version.Precedence

/-! # Precedence is a preorder

Each comparison of a part of a version goes by a list of keys, one after the other. Comparing by
keys is transitive and changes sides with its arguments, so the same holds of the precedence of
versions and of texts. -/

namespace ModuleId

open Std

/-- Comparing by a key keeps the laws of the comparison of keys. -/
theorem transCmp_pullback {α β : Type} (cmp : β → β → Ordering) [h : TransCmp cmp] (key : α → β) :
    TransCmp fun a b => cmp (key a) (key b) where
  eq_swap := h.eq_swap
  isLE_trans := h.isLE_trans

/-! ## Words -/

instance : TransCmp numeralOrder :=
  inferInstanceAs (TransCmp (compareLex (compareOn List.length) compare))

/-- The length of a numeral. The length of any other identifier takes no part in its order. -/
def numericLength (a : PrereleaseIdentifier) : Nat :=
  if isNumeric a.val then a.val.length else 0

/-- Identifiers go by three keys: whether they are numerals, the length if so, the characters. -/
theorem identifierOrder_eq_compareLex :
    identifierOrder =
      compareLex (compareOn fun a => !isNumeric a.val)
        (compareLex (compareOn numericLength) (compareOn (·.val))) := by
  have hlt : compare false true = .lt := rfl
  have hgt : compare true false = .gt := rfl
  funext a b
  cases ha : isNumeric a.val <;> cases hb : isNumeric b.val <;>
    simp [identifierOrder, numeralOrder, compareLex, compareOn, numericLength, ha, hb, hlt, hgt]

instance : TransCmp identifierOrder := by
  rw [identifierOrder_eq_compareLex]
  infer_instance

/-! ## Versions and texts -/

/-- Prereleases go by whether there is one and then identifier by identifier. -/
theorem prereleaseOrder_eq_compareLex :
    prereleaseOrder = compareLex (compareOn List.isEmpty) (List.compareLex identifierOrder) := by
  funext as bs
  cases as <;> cases bs <;> rfl

instance : TransCmp prereleaseOrder := by
  rw [prereleaseOrder_eq_compareLex]
  infer_instance

instance : Ord Version where
  compare := Version.precedence

instance : TransOrd Version :=
  haveI := transCmp_pullback numeralOrder fun v : Version => v.major.val
  haveI := transCmp_pullback numeralOrder fun v : Version => v.minor.val
  haveI := transCmp_pullback numeralOrder fun v : Version => v.patch.val
  haveI := transCmp_pullback prereleaseOrder Version.prerelease
  inferInstanceAs <| TransCmp <|
    compareLex (fun v w : Version => numeralOrder v.major.val w.major.val) <|
      compareLex (fun v w => numeralOrder v.minor.val w.minor.val) <|
        compareLex (fun v w => numeralOrder v.patch.val w.patch.val)
          (fun v w => prereleaseOrder v.prerelease w.prerelease)

/-- Texts go by the version that they are read as; what is no version comes first. -/
theorem textPrecedence_eq_compareOn : textPrecedence = compareOn Version.parse? := by
  funext a b
  simp only [textPrecedence, compareOn]
  cases Version.parse? a <;> cases Version.parse? b <;> rfl

instance : TransCmp textPrecedence := by
  rw [textPrecedence_eq_compareOn]
  infer_instance

end ModuleId
