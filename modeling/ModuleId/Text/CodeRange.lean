/-! # Ranges of code points -/

namespace ModuleId.Text

/-- The code points from `first` to `last`, both included. -/
structure CodeRange where
  first : Nat
  last : Nat
deriving DecidableEq, Repr

/-- A character is in a range when its code point is. -/
def CodeRange.contains (r : CodeRange) (c : Char) : Bool :=
  r.first ≤ c.toNat && c.toNat ≤ r.last

/-- Whether some range of a table has the character. -/
def inTable (table : List CodeRange) (c : Char) : Bool :=
  table.any (·.contains c)

theorem inTable_iff (table : List CodeRange) (c : Char) :
    inTable table c = true ↔ ∃ r ∈ table, r.first ≤ c.toNat ∧ c.toNat ≤ r.last := by
  simp [inTable, CodeRange.contains]

end ModuleId.Text
