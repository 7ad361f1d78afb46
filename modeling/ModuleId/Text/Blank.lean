import ModuleId.Text.CodeRange

/-! # White space -/

namespace ModuleId.Text

/-- The property White_Space of Unicode 15.1.0: 25 code points in ascending ranges. -/
def blankRanges : List CodeRange :=
  [
    ⟨0x9, 0xD⟩, ⟨0x20, 0x20⟩, ⟨0x85, 0x85⟩, ⟨0xA0, 0xA0⟩, ⟨0x1680, 0x1680⟩, ⟨0x2000, 0x200A⟩,
    ⟨0x2028, 0x2029⟩, ⟨0x202F, 0x202F⟩, ⟨0x205F, 0x205F⟩, ⟨0x3000, 0x3000⟩
  ]

def isBlank (c : Char) : Bool :=
  inTable blankRanges c

/-- The text without the blanks at its two ends. -/
def trim (s : List Char) : List Char :=
  ((s.dropWhile isBlank).reverse.dropWhile isBlank).reverse

/-- The nonempty pieces between blanks, in order. -/
def fields (s : List Char) : List (List Char) :=
  (s.splitOnP isBlank).filter fun piece => !piece.isEmpty

/-- A line feed is blank, so a field never spans two lines. -/
theorem isBlank_newline : isBlank '\n' = true := by decide

end ModuleId.Text
