import Mathlib.Data.List.Basic
import Mathlib.Data.List.TakeWhile
import ModuleId.Json.Token
import ModuleId.Proofs.Json.Literal

/-! # How tokens are found

Every token takes at least one character, so the bound on the steps is never met: the tokens of a
text are its first token and then the tokens of what follows. A literal is one token whatever
follows, and a number is one when what follows cannot belong to it. -/

namespace ModuleId.Json

/-! ## What follows a token -/

theorem exists_of_map_cons {c : Char} {tail : Option (List Char × List Char)}
    {text rest : List Char} (h : (tail.map fun (s, rest) => (c :: s, rest)) = some (text, rest)) :
    ∃ s, tail = some (s, rest) := by
  obtain ⟨⟨s, other⟩, htail, hpair⟩ := Option.map_eq_some_iff.mp h
  obtain ⟨-, rfl⟩ := Prod.mk.inj hpair
  exact ⟨s, htail⟩

theorem length_lt_of_literal? {s text rest : List Char} (h : literal? s = some (text, rest)) :
    rest.length < s.length := by
  fun_induction literal? s generalizing text rest with
  | case1 tail =>
      obtain ⟨-, rfl⟩ : [] = text ∧ tail = rest := by simpa using h
      exact Nat.lt_succ_self _
  | case4 | case8 | case10 | case12 =>
      -- a character, however it is written, and the rest of the literal
      rename_i ih
      obtain ⟨s, hs⟩ := exists_of_map_cons h
      have hlt := ih hs
      simp only [List.length_cons]
      omega
  | case2 | case3 | case5 | case6 | case7 | case9 | case11 | case13 => simp at h

theorem length_lt_of_token? {s rest : List Char} {token : Token}
    (h : token? s = some (token, rest)) : rest.length < s.length := by
  unfold token? at h
  split at h
  case h_10 tail =>
      obtain ⟨⟨text, other⟩, hliteral, hpair⟩ := Option.map_eq_some_iff.mp h
      obtain ⟨-, rfl⟩ := Prod.mk.inj hpair
      exact Nat.lt_succ_of_lt (length_lt_of_literal? hliteral)
  case h_11 c tail =>
      split at h
      case isTrue =>
          obtain ⟨token, -, hpair⟩ := Option.map_eq_some_iff.mp h
          obtain ⟨-, rfl⟩ := Prod.mk.inj hpair
          exact Nat.lt_succ_of_le (List.dropWhile_suffix isNumberChar).length_le
      case isFalse => simp at h
  case h_12 => simp at h
  all_goals
    -- marks and words
    simp only [Option.some.injEq, Prod.mk.injEq] at h
    obtain ⟨-, rfl⟩ := h
    simp only [List.length_cons]
    omega

/-! ## Tokens one after the other -/

/-- A bound that is not below the length has no influence. -/
theorem tokensWithin?_eq {bound other : Nat} {s : List Char} (hbound : s.length ≤ bound)
    (hother : s.length ≤ other) : tokensWithin? bound s = tokensWithin? other s := by
  induction bound generalizing other s with
  | zero =>
      obtain rfl := List.length_eq_zero_iff.mp (Nat.le_zero.mp hbound)
      simp [tokensWithin?]
  | succ bound ih =>
      cases s with
      | nil => simp [tokensWithin?]
      | cons c s =>
          cases other with
          | zero => simp at hother
          | succ other =>
              simp only [List.length_cons, Nat.succ_le_succ_iff] at hbound hother
              rw [tokensWithin?, tokensWithin?, ih hbound hother]
              cases htoken : token? (c :: s) with
              | none => rfl
              | some pair =>
                  obtain ⟨token, rest⟩ := pair
                  have hlt := Nat.le_of_lt_succ (length_lt_of_token? htoken)
                  simp only [ih (Nat.le_trans hlt hbound) (Nat.le_trans hlt hother)]

/-- The tokens of a text are its first token and the tokens of what follows. -/
theorem tokens?_of_token? {c : Char} {s rest : List Char} {token : Token} {tokens : List Token}
    (hspace : isSpace c = false) (htoken : token? (c :: s) = some (token, rest))
    (h : tokens? rest = some tokens) : tokens? (c :: s) = some (token :: tokens) := by
  have hlt := Nat.le_of_lt_succ (length_lt_of_token? htoken)
  have hrest : tokensWithin? s.length rest = some tokens :=
    (tokensWithin?_eq hlt (Nat.le_refl _)).trans h
  simp [tokens?, tokensWithin?, hspace, htoken, hrest]

/-- A literal is one token, whatever follows. -/
theorem tokens?_literal_append (s : String) {rest : List Char} {tokens : List Token}
    (h : tokens? rest = some tokens) :
    tokens? (literal s.toList ++ rest) = some (.string s :: tokens) := by
  have hliteral : token? (literal s.toList ++ rest) = some (.string s, rest) := by
    simp [literal, token?, literal?_flatMap_literalChar]
  exact tokens?_of_token? (by decide) hliteral h

/-! ## Numbers -/

theorem token?_of_isNumberChar {c : Char} (hc : isNumberChar c = true) (s : List Char) :
    token? (c :: s) = (number? (c :: s.takeWhile isNumberChar)).map fun token =>
      (token, s.dropWhile isNumberChar) := by
  unfold token?
  split
  case h_11 =>
      rename_i heq
      obtain ⟨rfl, rfl⟩ := List.cons.inj heq
      rw [if_pos hc]
  case h_12 heq => simp at heq
  all_goals
    -- no other token starts like a number
    rename_i heq
    obtain ⟨rfl, -⟩ := List.cons.inj heq
    exact absurd hc (by decide)

theorem isSpace_of_isNumberChar {c : Char} (hc : isNumberChar c = true) : isSpace c = false := by
  rw [Bool.eq_false_iff]
  intro hspace
  simp only [isSpace, Bool.or_eq_true, beq_iff_eq] at hspace
  rcases hspace with ((rfl | rfl) | rfl) | rfl
  all_goals exact absurd hc (by decide)

/-- A text that does not go on with a character of numbers. -/
def EndsNumber (rest : List Char) : Prop :=
  ∀ c ∈ rest.head?, isNumberChar c = false

theorem endsNumber_cons {c : Char} (h : isNumberChar c = false) (rest : List Char) :
    EndsNumber (c :: rest) := by
  intro d hd
  obtain rfl : c = d := by simpa using hd
  exact h

theorem takeWhile_dropWhile_of_endsNumber {s rest : List Char}
    (hs : ∀ c ∈ s, isNumberChar c = true) (hrest : EndsNumber rest) :
    (s ++ rest).takeWhile isNumberChar = s ∧ (s ++ rest).dropWhile isNumberChar = rest := by
  rw [List.takeWhile_append_of_pos hs, List.dropWhile_append_of_pos hs]
  cases rest with
  | nil => simp
  | cons c rest => simp [hrest c rfl]

/-- A number is one token when what follows ends it. -/
theorem tokens?_number_append {s rest : List Char} {token : Token} {tokens : List Token}
    (hchars : s.all isNumberChar = true) (hnumber : number? s = some token)
    (hrest : EndsNumber rest) (h : tokens? rest = some tokens) :
    tokens? (s ++ rest) = some (token :: tokens) := by
  cases s with
  | nil => simp [number?, unsigned?, isWhole] at hnumber
  | cons c s =>
      rw [List.all_cons, Bool.and_eq_true, List.all_eq_true] at hchars
      obtain ⟨hc, hs⟩ := hchars
      obtain ⟨htake, hdrop⟩ := takeWhile_dropWhile_of_endsNumber hs hrest
      have htoken : token? (c :: (s ++ rest)) = some (token, rest) := by
        rw [token?_of_isNumberChar hc, htake, hdrop, hnumber]
        rfl
      exact tokens?_of_token? (isSpace_of_isNumberChar hc) htoken h

/-! ## Integers -/

theorem all_isDigit_toDigits (n : Nat) : (Nat.toDigits 10 n).all Char.isDigit = true :=
  List.all_eq_true.mpr fun _ => Nat.isDigit_of_mem_toDigits (by decide) (by decide)

theorem digitsValue_toDigits (n : Nat) : digitsValue (Nat.toDigits 10 n) = n := by
  have hvalue (s : List Char) : digitsValue s = Nat.ofDigitChars 10 s 0 := by
    simp only [digitsValue, Nat.ofDigitChars, Nat.mul_comm]
  rw [hvalue, Nat.ofDigitChars_ten_toDigits]

/-- Only zero is written with a leading zero. -/
theorem head?_toDigits_ne {n : Nat} (h : n ≠ 0) : (Nat.toDigits 10 n).head? ≠ some '0' := by
  induction n using Nat.strongRecOn with
  | ind n ih =>
      by_cases hlt : n < 10
      · have hdigit : ∀ d < 10, d ≠ 0 → Nat.digitChar d ≠ '0' := by decide
        simpa [Nat.toDigits_of_lt_base hlt] using hdigit n hlt h
      · rw [Nat.toDigits_of_base_le (by decide) (by omega),
          List.head?_append_of_ne_nil _ Nat.toDigits_ne_nil]
        exact ih (n / 10) (by omega) (by omega)

theorem isWhole_toDigits (n : Nat) : isWhole (Nat.toDigits 10 n) = true := by
  by_cases h : n = 0
  · rw [h]
    decide
  · have hhead := head?_toDigits_ne h
    have hdigits := all_isDigit_toDigits n
    cases hs : Nat.toDigits 10 n with
    | nil => exact (Nat.toDigits_ne_nil hs).elim
    | cons c rest =>
        rw [hs] at hhead hdigits
        have hc : c ≠ '0' := by simpa using hhead
        rw [isWhole]
        · simp [hc, hdigits]
        · intro hzero
          exact (hc hzero).elim

theorem unsigned?_toDigits (negative : Bool) (n : Nat) :
    unsigned? negative (Nat.toDigits 10 n) =
      some (.integer (if negative then -(n : Int) else n)) := by
  have hdigits := List.all_eq_true.mp (all_isDigit_toDigits n)
  have hwhole := List.takeWhile_eq_self_iff.mpr hdigits
  have hrest := List.dropWhile_eq_nil_iff.mpr hdigits
  simp [unsigned?, hwhole, hrest, isWhole_toDigits, digitsValue_toDigits]

theorem toList_toString_int (n : Int) :
    (toString n).toList =
      if 0 ≤ n then Nat.toDigits 10 n.toNat else '-' :: Nat.toDigits 10 (-n).toNat := by
  rw [Int.toString_eq_repr, Int.repr_eq_if]
  split
  · rw [Nat.toList_repr]
  · rw [String.toList_append, Nat.toList_repr]
    rfl

theorem number?_toString_int (n : Int) : number? (toString n).toList = some (.integer n) := by
  rw [toList_toString_int]
  split
  case isTrue hn =>
      rw [number?, unsigned?_toDigits]
      · simp [Int.toNat_of_nonneg hn]
      · intro rest hrest
        have hdigits := all_isDigit_toDigits n.toNat
        simp [hrest] at hdigits
  case isFalse hn =>
      rw [number?, unsigned?_toDigits]
      simp only [if_true, Option.some.injEq, Token.integer.injEq]
      omega

theorem all_isNumberChar_toString_int (n : Int) :
    (toString n).toList.all isNumberChar = true := by
  have hdigits (m : Nat) : (Nat.toDigits 10 m).all isNumberChar = true := by
    rw [List.all_eq_true]
    intro c hc
    simp [isNumberChar, List.all_eq_true.mp (all_isDigit_toDigits m) c hc]
  rw [toList_toString_int]
  split
  · exact hdigits _
  · exact hdigits _

end ModuleId.Json
