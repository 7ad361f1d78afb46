import ModuleId.Json.Literal

/-! # String literals are read back

A literal writes its text character by character, and each character in one of three ways. Reading
undoes every one of them, so no text of quotes, backslashes and controls next to each other ends a
literal early or is read as another. -/

namespace ModuleId.Json

/-! ## Escapes -/

theorem hexValue?_digitChar : ∀ d < 16, hexValue? (Nat.digitChar d) = some d := by decide

/-- Two hexadecimal digits are enough for a control character. -/
theorem codeUnit?_of_lt {n : Nat} (h : n < 0x20) :
    codeUnit? '0' '0' (Nat.digitChar (n / 16)) (Nat.digitChar (n % 16)) = some n := by
  have hzero : hexValue? '0' = some 0 := rfl
  have hhigh := hexValue?_digitChar (n / 16) (by omega)
  have hlow := hexValue?_digitChar (n % 16) (by omega)
  simp only [codeUnit?, hzero, hhigh, hlow, Option.bind_eq_bind, Option.bind_some, Option.pure_def,
    Option.some.injEq]
  omega

/-- The ways to write a character: an escape of one letter, its code, or itself. -/
inductive IsLiteralChar (c : Char) : List Char → Prop
  | short {letter} (hletter : letter ≠ 'u') (h : shortEscape? letter = some c) :
      IsLiteralChar c ['\\', letter]
  | code (h : c.toNat < 0x20) :
      IsLiteralChar c
        ['\\', 'u', '0', '0', Nat.digitChar (c.toNat / 16), Nat.digitChar (c.toNat % 16)]
  | plain (hquote : c ≠ '"') (hslash : c ≠ '\\') (h : ¬ c.toNat < 0x20) : IsLiteralChar c [c]

theorem isLiteralChar_literalChar (c : Char) : IsLiteralChar c (literalChar c) := by
  by_cases hshort : c ∈ ['"', '\\', '\x08', '\t', '\n', '\x0c', '\r']
  · simp only [List.mem_cons, List.not_mem_nil, or_false] at hshort
    rcases hshort with rfl | rfl | rfl | rfl | rfl | rfl | rfl <;>
      exact .short (by decide) rfl
  · simp only [List.mem_cons, List.not_mem_nil, or_false, not_or] at hshort
    have hwritten : literalChar c = if c.toNat < 0x20 then
        ['\\', 'u', '0', '0', Nat.digitChar (c.toNat / 16), Nat.digitChar (c.toNat % 16)]
        else [c] := by
      simp [literalChar, hshort]
    rw [hwritten]
    split
    case isTrue hcontrol => exact .code hcontrol
    case isFalse hcontrol => exact .plain hshort.1 hshort.2.1 hcontrol

/-! ## Literals -/

/-- A character is read back however it is written, whatever follows. -/
theorem IsLiteralChar.literal?_append {c : Char} {written : List Char}
    (h : IsLiteralChar c written) (rest : List Char) :
    literal? (written ++ rest) = (literal? rest).map fun (s, rest) => (c :: s, rest) := by
  cases h with
  | short hletter h =>
      rw [List.cons_append, List.cons_append, List.nil_append, literal?]
      · simp only [h]
      · intro a b c d rest hu
        exact (hletter hu).elim
  | code h =>
      have hhigh : isHighSurrogate c.toNat = false := by
        simp [isHighSurrogate]
        omega
      have hlow : isLowSurrogate c.toNat = false := by
        simp [isLowSurrogate]
        omega
      simp [literal?, codeUnit?_of_lt h, hhigh, hlow]
  | plain hquote hslash h =>
      rw [List.cons_append, List.nil_append, literal?]
      · simp [hslash, h]
      · exact hquote
      · intro a b c d rest hc
        exact (hslash hc).elim
      · intro d rest hc
        exact (hslash hc).elim

/-- A literal is read back up to its last quote. -/
theorem literal?_flatMap_literalChar (s rest : List Char) :
    literal? (s.flatMap literalChar ++ '"' :: rest) = some (s, rest) := by
  induction s with
  | nil => simp [literal?]
  | cons c s ih =>
      rw [List.flatMap_cons, List.append_assoc, (isLiteralChar_literalChar c).literal?_append, ih]
      rfl

end ModuleId.Json
