/-! # ASCII text -/

namespace ModuleId.Text

/-- The first 128 code points. -/
def isAscii (c : Char) : Bool :=
  c.toNat < 128

/-- Every ASCII letter in upper case; other characters are kept. -/
def upperCase (s : List Char) : List Char :=
  s.map Char.toUpper

/-- Every ASCII letter in lower case; other characters are kept. -/
def lowerCase (s : List Char) : List Char :=
  s.map Char.toLower

/-- Letters have greater code points than digits. -/
theorem isDigit_eq_false_of_isAlpha {c : Char} (h : c.isAlpha = true) : c.isDigit = false := by
  have hlarge : ∀ first : Char, first.val ≤ c.val → '9'.val < first.val → c.isDigit = false := by
    intro first hfirst h9
    rw [Bool.eq_false_iff]
    intro hdigit
    have hc : c.val ≤ '9'.val := of_decide_eq_true (Bool.and_eq_true_iff.mp hdigit).2
    exact UInt32.not_lt.mpr (UInt32.le_trans hfirst hc) h9
  rcases Bool.or_eq_true_iff.mp h with hupper | hlower
  · exact hlarge 'A' (of_decide_eq_true hupper).1 (by decide)
  · exact hlarge 'a' (of_decide_eq_true (Bool.and_eq_true_iff.mp hlower).1) (by decide)

end ModuleId.Text
