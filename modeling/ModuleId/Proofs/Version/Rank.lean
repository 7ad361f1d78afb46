import Mathlib
import ModuleId.Proofs.Order.Canonical

/-! # Precedence by value

The value of a version as semantic versioning ranks it: three natural numbers and, unless there is
no prerelease, a list of identifiers, each a natural number or a text. These values are ordered by
the order of their parts, one after the other. Precedence never computes a number, yet it is the
order of the values. -/

namespace ModuleId

/-! ## Values -/

def numeralValue (s : List Char) : ℕ :=
  Nat.ofDigitChars 10 s 0

/-- Numbers come before texts. -/
def identifierRank (a : PrereleaseIdentifier) : ℕ ⊕ₗ List Char :=
  if isNumeric a.val then toLex (.inl (numeralValue a.val)) else toLex (.inr a.val)

/-- A version without a prerelease comes after all its prereleases. -/
def prereleaseRank : List PrereleaseIdentifier → WithTop (List (ℕ ⊕ₗ List Char))
  | [] => ⊤
  | first :: rest => ((first :: rest).map identifierRank : List (ℕ ⊕ₗ List Char))

/-- What counts of a version in the order of versions. Build metadata does not. -/
def Version.rank (v : Version) : ℕ ×ₗ ℕ ×ₗ ℕ ×ₗ WithTop (List (ℕ ⊕ₗ List Char)) :=
  toLex (numeralValue v.major.val, toLex (numeralValue v.minor.val,
    toLex (numeralValue v.patch.val, prereleaseRank v.prerelease)))

/-! ## Lexicographic comparison -/

section Compares

variable {α β γ : Type} [LinearOrder β] [LinearOrder γ]

theorem compares_then {o₁ o₂ : Ordering} {b b' : β} {c c' : γ} (h₁ : o₁.Compares b b')
    (h₂ : o₂.Compares c c') : (o₁.then o₂).Compares (toLex (b, c)) (toLex (b', c')) := by
  cases o₁ with
  | lt => exact Prod.Lex.toLex_lt_toLex.mpr (.inl h₁)
  | gt => exact Prod.Lex.toLex_lt_toLex.mpr (.inl h₁)
  | eq =>
      obtain rfl : b = b' := h₁
      cases o₂ with
      | lt => exact Prod.Lex.toLex_lt_toLex.mpr (.inr ⟨rfl, h₂⟩)
      | gt => exact Prod.Lex.toLex_lt_toLex.mpr (.inr ⟨rfl, h₂⟩)
      | eq =>
          obtain rfl : c = c' := h₂
          rfl

theorem compares_of_strictMono {o : Ordering} {b b' : β} {f : β → γ} (hf : StrictMono f)
    (h : o.Compares b b') : o.Compares (f b) (f b') := by
  cases o with
  | lt => exact hf h
  | gt => exact hf h
  | eq => exact congrArg f h

/-- Lists with a first element go by it and then by what follows. -/
theorem compares_cons {o : Ordering} {b b' : β} {bs bs' : List β}
    (h : o.Compares (toLex (b, bs)) (toLex (b', bs'))) : o.Compares (b :: bs) (b' :: bs') := by
  cases o with
  | lt => exact List.cons_lt_cons_iff.mpr (Prod.Lex.toLex_lt_toLex.mp h)
  | gt => exact List.cons_lt_cons_iff.mpr (Prod.Lex.toLex_lt_toLex.mp h)
  | eq =>
      obtain ⟨rfl, rfl⟩ : b = b' ∧ bs = bs' := Prod.mk.inj (toLex.injective h)
      rfl

/-- When elements are ordered by a key, lists are ordered by the keys of their elements. -/
theorem compares_compareLex {order : α → α → Ordering} {key : α → β}
    (h : ∀ a b, (order a b).Compares (key a) (key b)) (as bs : List α) :
    (as.compareLex order bs).Compares (as.map key) (bs.map key) := by
  induction as generalizing bs with
  | nil =>
      cases bs with
      | nil => rfl
      | cons b bs => exact List.nil_lt_cons _ _
  | cons a as ih =>
      cases bs with
      | nil => exact List.nil_lt_cons _ _
      | cons b bs =>
          rw [List.compareLex_cons_cons]
          exact compares_cons (compares_then (h a b) (ih bs))

end Compares

/-- Texts are compared in the order of their characters. -/
theorem compares_text (s t : List Char) : (compare s t).Compares s t := by
  have h : (s.compareLex compare t).Compares (s.map id) (t.map id) :=
    compares_compareLex (fun c d => (compare_iff c d).mp rfl) s t
  rw [List.map_id, List.map_id] at h
  exact h

/-! ## Numerals -/

def digitValue (c : Char) : ℕ :=
  c.toNat - '0'.toNat

theorem digitValue_lt {c : Char} (h : c.isDigit = true) : digitValue c < 10 := by
  have h9 : c.toNat ≤ 57 := (Char.isDigit_iff_toNat.mp h).2
  have hzero : '0'.toNat = 48 := rfl
  rw [digitValue]
  omega

theorem digitValue_lt_digitValue {c d : Char} (hc : c.isDigit = true) (h : c < d) :
    digitValue c < digitValue d := by
  have h0 : 48 ≤ c.toNat := (Char.isDigit_iff_toNat.mp hc).1
  have hlt : c.toNat < d.toNat := h
  have hzero : '0'.toNat = 48 := rfl
  rw [digitValue, digitValue]
  omega

theorem numeralValue_cons (c : Char) (s : List Char) :
    numeralValue (c :: s) = 10 ^ s.length * digitValue c + numeralValue s := by
  rw [numeralValue, Nat.ofDigitChars_cons, Nat.ofDigitChars_eq_ofDigitChars_zero]
  simp [numeralValue, digitValue]

theorem numeralValue_lt {s : List Char} (h : ∀ c ∈ s, c.isDigit = true) :
    numeralValue s < 10 ^ s.length := by
  induction s with
  | nil => decide
  | cons c s ih =>
      have hc := digitValue_lt (h c (by simp))
      have hs := ih fun d hd => h d (List.mem_cons_of_mem c hd)
      rw [numeralValue_cons, List.length_cons, pow_succ]
      nlinarith

/-- Without a leading zero a numeral is at least a power of ten. -/
theorem le_numeralValue {c : Char} {s : List Char} (hc : c.isDigit = true) (hzero : c ≠ '0') :
    10 ^ s.length ≤ numeralValue (c :: s) := by
  have h0 : '0'.toNat ≤ c.toNat := (Char.isDigit_iff_toNat.mp hc).1
  have hne : c.toNat ≠ '0'.toNat := fun h => hzero (Char.toNat_inj.mp h)
  have hpos : 1 ≤ digitValue c := by
    rw [digitValue]
    omega
  rw [numeralValue_cons]
  exact Nat.le_add_right_of_le (Nat.le_mul_of_pos_right _ hpos)

/-- Among numerals the longer one is the greater. -/
theorem numeralValue_lt_of_length_lt {s t : List Char} (hs : IsNumeral s) (ht : IsNumeral t)
    (h : s.length < t.length) : numeralValue s < numeralValue t := by
  have hdigits := List.all_eq_true.mp ht.2.1
  cases t with
  | nil => simp at h
  | cons c t =>
      have hzero : c ≠ '0' := by
        rintro rfl
        have htext := ht.2.2 rfl
        have hlength : 0 < s.length := List.length_pos_of_ne_nil hs.1
        rw [htext, List.length_singleton] at h
        omega
      calc numeralValue s < 10 ^ s.length := numeralValue_lt (List.all_eq_true.mp hs.2.1)
        _ ≤ 10 ^ t.length := Nat.pow_le_pow_right (by decide) (Nat.le_of_lt_succ h)
        _ ≤ numeralValue (c :: t) := le_numeralValue (hdigits c (by simp)) hzero

/-- Among numerals of the same length the first digit that differs decides. -/
theorem numeralValue_lt_of_digit_lt {c d : Char} {s t : List Char}
    (hlength : s.length = t.length) (hs : ∀ c ∈ s, c.isDigit = true)
    (hcd : digitValue c < digitValue d) : numeralValue (c :: s) < numeralValue (d :: t) := by
  calc numeralValue (c :: s) = 10 ^ s.length * digitValue c + numeralValue s :=
        numeralValue_cons c s
    _ < 10 ^ s.length * digitValue c + 10 ^ s.length :=
        Nat.add_lt_add_left (numeralValue_lt hs) _
    _ = 10 ^ t.length * (digitValue c + 1) := by rw [hlength, Nat.mul_succ]
    _ ≤ 10 ^ t.length * digitValue d := Nat.mul_le_mul_left _ hcd
    _ ≤ numeralValue (d :: t) := by
        rw [numeralValue_cons]
        exact Nat.le_add_right _ _

theorem compares_digits {s t : List Char} (hlength : s.length = t.length)
    (hs : ∀ c ∈ s, c.isDigit = true) (ht : ∀ c ∈ t, c.isDigit = true) :
    (compare s t).Compares (numeralValue s) (numeralValue t) := by
  induction s generalizing t with
  | nil =>
      obtain rfl : t = [] := List.length_eq_zero_iff.mp hlength.symm
      rfl
  | cons c s ih =>
      cases t with
      | nil => simp at hlength
      | cons d t =>
          rw [List.forall_mem_cons] at hs ht
          have htails : s.length = t.length := Nat.succ.inj hlength
          have hhead : (compare c d).Compares c d := (compare_iff c d).mp rfl
          have htail := ih htails hs.2 ht.2
          rw [List.compare_cons_cons]
          cases hcd : compare c d with
          | lt =>
              rw [hcd] at hhead
              exact numeralValue_lt_of_digit_lt htails hs.2 (digitValue_lt_digitValue hs.1 hhead)
          | gt =>
              rw [hcd] at hhead
              exact numeralValue_lt_of_digit_lt htails.symm ht.2
                (digitValue_lt_digitValue ht.1 hhead)
          | eq =>
              rw [hcd] at hhead
              obtain rfl : c = d := hhead
              -- equal digits at the same place add the same to both values
              rw [numeralValue_cons, numeralValue_cons, htails]
              exact compares_of_strictMono (fun m n h => Nat.add_lt_add_left h _) htail

theorem numeralOrder_compares {s t : List Char} (hs : IsNumeral s) (ht : IsNumeral t) :
    (numeralOrder s t).Compares (numeralValue s) (numeralValue t) := by
  have horder : numeralOrder s t = (compare s.length t.length).then (compare s t) := rfl
  rw [horder]
  cases hlength : compare s.length t.length with
  | lt => exact numeralValue_lt_of_length_lt hs ht (Nat.compare_eq_lt.mp hlength)
  | gt => exact numeralValue_lt_of_length_lt ht hs (Nat.compare_eq_gt.mp hlength)
  | eq =>
      exact compares_digits (Nat.compare_eq_eq.mp hlength) (List.all_eq_true.mp hs.2.1)
        (List.all_eq_true.mp ht.2.1)

/-- Numerals have no leading zeros, so each number is written as one numeral. -/
theorem numeralValue_inj {s t : List Char} (hs : IsNumeral s) (ht : IsNumeral t) :
    numeralValue s = numeralValue t ↔ s = t := by
  refine ⟨?_, congrArg numeralValue⟩
  intro h
  have horder : numeralOrder s t = .eq := (numeralOrder_compares hs ht).eq_eq.mpr h
  exact Std.LawfulEqCmp.eq_of_compare horder

theorem numeralValue_le_one_iff {s : List Char} (h : IsNumeral s) :
    numeralValue s ≤ 1 ↔ s = ['0'] ∨ s = ['1'] := by
  have hzero : numeralValue ['0'] = 0 := rfl
  have hone : numeralValue ['1'] = 1 := rfl
  rw [← numeralValue_inj h (by decide), ← numeralValue_inj h (by decide), hzero, hone]
  omega

/-! ## Prereleases -/

theorem identifierOrder_compares (a b : PrereleaseIdentifier) :
    (identifierOrder a b).Compares (identifierRank a) (identifierRank b) := by
  have hinl : StrictMono fun n : ℕ => (toLex (.inl n) : ℕ ⊕ₗ List Char) := Sum.Lex.inl_strictMono
  have hinr : StrictMono fun s : List Char => (toLex (.inr s) : ℕ ⊕ₗ List Char) :=
    Sum.Lex.inr_strictMono
  rw [identifierOrder, identifierRank, identifierRank]
  cases ha : isNumeric a.val with
  | true =>
      have hnumeral : IsNumeral a.val := a.property.2 ha
      cases hb : isNumeric b.val with
      | true =>
          exact compares_of_strictMono hinl (numeralOrder_compares hnumeral (b.property.2 hb))
      | false => exact Sum.Lex.inl_lt_inr _ _
  | false =>
      cases hb : isNumeric b.val with
      | true => exact Sum.Lex.inl_lt_inr _ _
      | false =>
          have h := compares_of_strictMono hinr (compares_text a.val b.val)
          exact h

theorem prereleaseOrder_compares (as bs : List PrereleaseIdentifier) :
    (prereleaseOrder as bs).Compares (prereleaseRank as) (prereleaseRank bs) := by
  cases as with
  | nil =>
      cases bs with
      | nil => rfl
      | cons b bs => exact WithTop.coe_lt_top _
  | cons a as =>
      cases bs with
      | nil => exact WithTop.coe_lt_top _
      | cons b bs =>
          have h := compares_of_strictMono WithTop.coe_strictMono
            (compares_compareLex identifierOrder_compares (a :: as) (b :: bs))
          exact h

/-! ## Versions -/

theorem Version.precedence_eq_cmp (v w : Version) : v.precedence w = cmp v.rank w.rank := by
  refine (Ordering.Compares.cmp_eq ?_).symm
  exact compares_then (numeralOrder_compares v.major.property w.major.property)
    (compares_then (numeralOrder_compares v.minor.property w.minor.property)
      (compares_then (numeralOrder_compares v.patch.property w.patch.property)
        (prereleaseOrder_compares v.prerelease w.prerelease)))

/-- The precedence of two texts that are versions is the order of the values of the versions. -/
theorem compareVersions_eq_cmp_rank {a b : String} {v w : Version}
    (ha : Version.parse? a.toList = some v) (hb : Version.parse? b.toList = some w) :
    compareVersions a b = cmp v.rank w.rank := by
  rw [compareVersions, textPrecedence, ha, hb]
  exact v.precedence_eq_cmp w

/-- The identifier `2` comes before `11`, as a number, and the short form is a release. -/
theorem compareVersions_eq_cmp_rank_beta :
    ∃ v w x, Version.parse? "v1.0.0-beta.2+linux".toList = some v ∧
      Version.parse? "v1.0.0-beta.11".toList = some w ∧ Version.parse? "v1".toList = some x ∧
      compareVersions "v1.0.0-beta.2+linux" "v1.0.0-beta.11" = cmp v.rank w.rank ∧
      compareVersions "v1.0.0-beta.11" "v1" = cmp w.rank x.rank ∧
      v.rank < w.rank ∧ w.rank < x.rank := by
  have hv : (Version.parse? "v1.0.0-beta.2+linux".toList).isSome := by decide
  have hw : (Version.parse? "v1.0.0-beta.11".toList).isSome := by decide
  have hx : (Version.parse? "v1".toList).isSome := by decide
  obtain ⟨v, hv⟩ := Option.isSome_iff_exists.mp hv
  obtain ⟨w, hw⟩ := Option.isSome_iff_exists.mp hw
  obtain ⟨x, hx⟩ := Option.isSome_iff_exists.mp hx
  have hvw := compareVersions_eq_cmp_rank hv hw
  have hwx := compareVersions_eq_cmp_rank hw hx
  have hlt : compareVersions "v1.0.0-beta.2+linux" "v1.0.0-beta.11" = .lt := by rfl
  have hlt' : compareVersions "v1.0.0-beta.11" "v1" = .lt := by rfl
  exact ⟨v, w, x, hv, hw, hx, hvw, hwx, (cmp_eq_lt_iff _ _).mp (hvw.symm.trans hlt),
    (cmp_eq_lt_iff _ _).mp (hwx.symm.trans hlt')⟩

end ModuleId
