import ModuleId.Proofs.Text.Visible
import ModuleId.Text.Quoted

/-! # Control characters

A control character shows nothing of its own and can move what follows it, as a line feed does.
Quoted text holds none, whatever text is quoted. -/

namespace ModuleId.Text

/-- The general category Cc. -/
def isControl (c : Char) : Bool :=
  c.toNat ≤ 0x1F || 0x7F ≤ c.toNat && c.toNat ≤ 0x9F

def holdsControl (s : String) : Bool :=
  s.toList.any isControl

theorem isControl_iff {c : Char} :
    isControl c = true ↔ c.toNat ≤ 0x1F ∨ 0x7F ≤ c.toNat ∧ c.toNat ≤ 0x9F := by
  simp [isControl]

theorem holdsControl_eq_false_iff {s : String} :
    holdsControl s = false ↔ ∀ c ∈ s.toList, isControl c = false := by
  simp [holdsControl]

theorem holdsControl_append (s t : String) :
    holdsControl (s ++ t) = (holdsControl s || holdsControl t) := by
  simp [holdsControl]

theorem holdsControl_append_eq_false {s t : String} (hs : holdsControl s = false)
    (ht : holdsControl t = false) : holdsControl (s ++ t) = false := by
  rw [holdsControl_append, hs, ht]
  rfl

theorem isControl_eq_false_of_isVisible {c : Char} (h : isVisible c = true) :
    isControl c = false := by
  rw [isVisible_iff] at h
  rw [← Bool.not_eq_true, isControl_iff]
  omega

theorem holdsControl_eq_false_of_isVisible {s : String} (h : ∀ c ∈ s.toList, isVisible c = true) :
    holdsControl s = false := by
  rw [holdsControl_eq_false_iff]
  intro c hc
  exact isControl_eq_false_of_isVisible (h c hc)

/-! ## Quoted text -/

theorem isUnprintable_of_isControl {c : Char} (h : isControl c = true) : isUnprintable c = true := by
  have hlow : ⟨0x0, 0x1F⟩ ∈ unprintableRanges := List.mem_cons_self
  have hhigh : ⟨0x7F, 0xA0⟩ ∈ unprintableRanges := List.mem_cons_of_mem _ List.mem_cons_self
  rw [isUnprintable, inTable_iff]
  rcases isControl_iff.mp h with hc | hc
  · exact ⟨_, hlow, Nat.zero_le _, hc⟩
  · exact ⟨_, hhigh, hc.1, hc.2.trans (by decide)⟩

/-- A code point is written in the digits `0` to `9` and `a` to `f`. -/
theorem isVisible_of_mem_toDigits {n : Nat} {c : Char} (h : c ∈ Nat.toDigits 16 n) :
    isVisible c = true := by
  have hdigit : ∀ d < 16, isVisible (Nat.digitChar d) = true := by decide
  induction n using Nat.strong_induction_on with
  | _ n ih =>
      rw [Nat.toDigits_eq_if (by decide)] at h
      split at h
      case isTrue hn =>
          rw [List.mem_singleton.mp h]
          exact hdigit n hn
      case isFalse hn =>
          rcases List.mem_append.mp h with hfront | hlast
          · exact ih (n / 16) (by omega) hfront
          · rw [List.mem_singleton.mp hlast]
            exact hdigit (n % 16) (Nat.mod_lt n (by decide))

theorem isVisible_of_mem_codePointEscape {c d : Char} (h : d ∈ codePointEscape c) :
    isVisible d = true := by
  have hopen : ['\\', 'u', '\x7b'].all isVisible = true := by decide
  have hclose : ['\x7d'].all isVisible = true := by decide
  rw [codePointEscape, List.mem_append, List.mem_append] at h
  rcases h with (hmark | hdigits) | hmark
  · exact List.all_eq_true.mp hopen d hmark
  · exact isVisible_of_mem_toDigits hdigits
  · exact List.all_eq_true.mp hclose d hmark

theorem isControl_eq_false_of_mem_shortEscape {mark d : Char} (hmark : isVisible mark = true)
    (h : d ∈ ['\\', mark]) : isControl d = false := by
  rcases List.mem_pair.mp h with rfl | rfl
  · decide
  · exact isControl_eq_false_of_isVisible hmark

/-- Inside quotes a character is written by visible ones or as itself, and as itself only if it is
printable. -/
theorem isControl_eq_false_of_mem_quoteChar {quote c d : Char} (hquote : isVisible quote = true)
    (h : d ∈ quoteChar quote c) : isControl d = false := by
  unfold quoteChar at h
  -- The four controls with a short escape come first, so the character left for the end may still
  -- be any other control.
  split at h
  · exact isControl_eq_false_of_mem_shortEscape (by decide) h
  split at h
  · exact isControl_eq_false_of_mem_shortEscape (by decide) h
  split at h
  · exact isControl_eq_false_of_mem_shortEscape (by decide) h
  split at h
  · exact isControl_eq_false_of_mem_shortEscape (by decide) h
  split at h
  case isTrue hc =>
      apply isControl_eq_false_of_mem_shortEscape _ h
      rcases Bool.or_eq_true_iff.mp hc with hc | hc
      · rw [beq_iff_eq.mp hc]
        decide
      · rw [beq_iff_eq.mp hc]
        exact hquote
  split at h
  case isTrue => exact isControl_eq_false_of_isVisible (isVisible_of_mem_codePointEscape h)
  case isFalse hc =>
      rw [List.mem_singleton.mp h, ← Bool.not_eq_true]
      intro hcontrol
      exact hc (by rw [isUnprintable_of_isControl hcontrol, Bool.or_true])

theorem isControl_eq_false_of_mem_quotes {quote : Char} {body : List Char}
    (hquote : isVisible quote = true) (hbody : ∀ c ∈ body, isControl c = false) :
    ∀ c ∈ quote :: body ++ [quote], isControl c = false := by
  have hquote' := isControl_eq_false_of_isVisible hquote
  rw [List.cons_append, List.forall_mem_cons, List.forall_mem_append, List.forall_mem_singleton]
  exact ⟨hquote', hbody, hquote'⟩

theorem holdsControl_quoted (s : String) : holdsControl (quoted s) = false := by
  rw [holdsControl_eq_false_iff, quoted, String.toList_ofList]
  apply isControl_eq_false_of_mem_quotes (by decide)
  intro d hd
  obtain ⟨c, -, hc⟩ := List.mem_flatMap.mp hd
  exact isControl_eq_false_of_mem_quoteChar (by decide) hc

theorem holdsControl_quotedChar (c : Char) : holdsControl (quotedChar c) = false := by
  rw [holdsControl_eq_false_iff, quotedChar, String.toList_ofList]
  apply isControl_eq_false_of_mem_quotes (by decide)
  intro d hd
  exact isControl_eq_false_of_mem_quoteChar (by decide) hd

theorem holdsControl_append_quoted {s : String} (hs : holdsControl s = false) (t : String) :
    holdsControl (s ++ quoted t) = false :=
  holdsControl_append_eq_false hs (holdsControl_quoted t)

theorem holdsControl_append_quotedChar {s : String} (hs : holdsControl s = false) (c : Char) :
    holdsControl (s ++ quotedChar c) = false :=
  holdsControl_append_eq_false hs (holdsControl_quotedChar c)

end ModuleId.Text
