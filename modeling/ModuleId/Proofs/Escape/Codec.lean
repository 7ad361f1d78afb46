import Mathlib
import ModuleId.Escape

/-! # Escaped text

The texts that can be read as an escaped form are exactly those that are written for ASCII text
without `!`, and each of them is written for one text only. -/

namespace ModuleId

open Text

/-! ## One character -/

theorem isAscii_of_val_le {c last : Char} (h : c.val ≤ last.val) (hlast : isAscii last = true) :
    isAscii c = true := by
  simp only [isAscii, decide_eq_true_eq] at hlast ⊢
  exact Nat.lt_of_le_of_lt (UInt32.le_iff_toNat_le.mp h) hlast

theorem isAscii_of_isUpper {c : Char} (h : c.isUpper = true) : isAscii c = true := by
  have hZ : c.val ≤ 'Z'.val := (of_decide_eq_true h).2
  exact isAscii_of_val_le hZ (by decide)

theorem isAscii_of_isAlphanum {c : Char} (h : c.isAlphanum = true) : isAscii c = true := by
  simp only [Char.isAlphanum, Char.isAlpha, Bool.or_eq_true] at h
  rcases h with (hupper | hlower) | hdigit
  · exact isAscii_of_isUpper hupper
  · have hz : c.val ≤ 'z'.val := of_decide_eq_true (Bool.and_eq_true_iff.mp hlower).2
    exact isAscii_of_val_le hz (by decide)
  · have h9 : c.val ≤ '9'.val := of_decide_eq_true (Bool.and_eq_true_iff.mp hdigit).2
    exact isAscii_of_val_le h9 (by decide)

theorem toUpper_toLower_of_isUpper {c : Char} (h : c.isUpper = true) :
    c.toLower.toUpper = c := by
  rw [Char.toUpper_toLower_eq_toUpper]
  exact Char.toUpper_eq_of_not_isLower (Char.not_isLower_of_isUpper h)

theorem toLower_toUpper_of_isLower {c : Char} (h : c.isLower = true) :
    c.toUpper.toLower = c := by
  rw [Char.toLower_toUpper_eq_toLower]
  exact Char.toLower_eq_of_not_isUpper (Char.not_isUpper_of_isLower h)

theorem isLower_toLower_of_isUpper {c : Char} (h : c.isUpper = true) :
    c.toLower.isLower = true := by
  simp [Char.isAlpha, h]

theorem isUpper_toUpper_of_isLower {c : Char} (h : c.isLower = true) :
    c.toUpper.isUpper = true := by
  simp [Char.isAlpha, h]

theorem escapeChar_of_isUpper {c : Char} (h : c.isUpper = true) :
    escapeChar c = ['!', c.toLower] := by
  simp [escapeChar, h]

theorem escapeChar_of_not_isUpper {c : Char} (h : c.isUpper = false) : escapeChar c = [c] := by
  simp [escapeChar, h]

/-! ## Texts that have an escaped form -/

theorem isEscapable_iff (s : List Char) :
    isEscapable s = true ↔ ∀ c ∈ s, c ≠ '!' ∧ isAscii c = true := by
  simp [isEscapable]

@[simp] theorem isEscapable_cons (c : Char) (s : List Char) :
    isEscapable (c :: s) = true ↔ (c ≠ '!' ∧ isAscii c = true) ∧ isEscapable s = true := by
  simp [isEscapable_iff]

@[simp] theorem escapeText_cons (c : Char) (s : List Char) :
    escapeText (c :: s) = escapeChar c ++ escapeText s := by
  simp [escapeText]

/-! ## Reading undoes writing -/

theorem unescapeText?_bang_cons {c : Char} (h : c.isLower = true) (rest : List Char) :
    unescapeText? ('!' :: c :: rest) = (unescapeText? rest).map (c.toUpper :: ·) := by
  simp [unescapeText?, h]

theorem unescapeText?_cons {c : Char} (hbang : c ≠ '!') (hupper : c.isUpper = false)
    (hascii : isAscii c = true) (rest : List Char) :
    unescapeText? (c :: rest) = (unescapeText? rest).map (c :: ·) := by
  cases rest <;> simp [unescapeText?, hbang, hupper, hascii]

/-- Reading takes off the form of one character, whatever follows. -/
theorem unescapeText?_escapeChar_append {c : Char} (hbang : c ≠ '!')
    (hascii : isAscii c = true) (rest : List Char) :
    unescapeText? (escapeChar c ++ rest) = (unescapeText? rest).map (c :: ·) := by
  cases hupper : c.isUpper with
  | true =>
      rw [escapeChar_of_isUpper hupper, List.cons_append, List.cons_append, List.nil_append,
        unescapeText?_bang_cons (isLower_toLower_of_isUpper hupper),
        toUpper_toLower_of_isUpper hupper]
  | false =>
      rw [escapeChar_of_not_isUpper hupper, List.cons_append, List.nil_append,
        unescapeText?_cons hbang hupper hascii]

theorem unescapeText?_escapeText {s : List Char} (h : isEscapable s = true) :
    unescapeText? (escapeText s) = some s := by
  induction s with
  | nil => rfl
  | cons c s ih =>
      obtain ⟨⟨hbang, hascii⟩, hs⟩ := (isEscapable_cons c s).mp h
      rw [escapeText_cons, unescapeText?_escapeChar_append hbang hascii, ih hs]
      rfl

theorem escapeText_injOn : Set.InjOn escapeText {s | isEscapable s = true} := by
  intro s hs t ht h
  have hread := unescapeText?_escapeText hs
  rw [h, unescapeText?_escapeText ht] at hread
  exact (Option.some.inj hread).symm

/-! ## Writing undoes reading -/

/-- What is read is ASCII text without `!`, and its form is the text it was read from. -/
theorem escapeText_of_unescapeText?_eq_some {escaped s : List Char}
    (h : unescapeText? escaped = some s) : isEscapable s = true ∧ escapeText s = escaped := by
  fun_induction unescapeText? escaped generalizing s with
  | case1 =>
      obtain rfl : [] = s := by simpa using h
      exact ⟨rfl, rfl⟩
  | case2 c rest hlower ih =>
      obtain ⟨t, ht, rfl⟩ := Option.map_eq_some_iff.mp h
      obtain ⟨hesc, htext⟩ := ih ht
      have hupper := isUpper_toUpper_of_isLower hlower
      have hbang : c.toUpper ≠ '!' := by
        intro he
        simp [he] at hupper
      refine ⟨?_, ?_⟩
      · exact (isEscapable_cons _ _).mpr ⟨⟨hbang, isAscii_of_isUpper hupper⟩, hesc⟩
      · rw [escapeText_cons, escapeChar_of_isUpper hupper, toLower_toUpper_of_isLower hlower, htext]
        rfl
  | case3 => simp at h
  | case4 => simp at h
  | case5 c rest _ hplain ih =>
      obtain ⟨t, ht, rfl⟩ := Option.map_eq_some_iff.mp h
      obtain ⟨hesc, htext⟩ := ih ht
      simp only [Bool.or_eq_true, beq_iff_eq, Bool.not_eq_true', not_or, Bool.not_eq_true,
        Bool.not_eq_false] at hplain
      obtain ⟨⟨hbang, hupper⟩, hascii⟩ := hplain
      refine ⟨?_, ?_⟩
      · exact (isEscapable_cons c t).mpr ⟨⟨hbang, hascii⟩, hesc⟩
      · rw [escapeText_cons, escapeChar_of_not_isUpper hupper, htext]
        rfl

/-- A text is read as `s` exactly when it is the form that is written for `s`. -/
theorem unescapeText?_eq_some_iff (escaped s : List Char) :
    unescapeText? escaped = some s ↔ isEscapable s = true ∧ escapeText s = escaped := by
  constructor
  · exact escapeText_of_unescapeText?_eq_some
  · intro h
    rw [← h.2]
    exact unescapeText?_escapeText h.1

end ModuleId
