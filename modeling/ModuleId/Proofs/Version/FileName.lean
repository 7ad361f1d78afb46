import Mathlib
import ModuleId.Proofs.Escape.Codec
import ModuleId.Proofs.Path.Grammar
import ModuleId.Proofs.Version.Reader

/-! # Versions are file names

A version consists of nonempty words with single marks between them, so its dots stand apart, and
it begins with `v`, which no reserved name does. -/

namespace ModuleId

open Text

/-! ## Dots that stand apart -/

/-- No dot stands at an end of a text or beside another dot. -/
structure DotsApart (s : List Char) : Prop where
  not_doubled : ¬ ['.', '.'] <:+: s
  head : s.head? ≠ some '.'
  last : s.getLast? ≠ some '.'

namespace DotsApart

variable {s t : List Char}

theorem of_not_mem (h : '.' ∉ s) : DotsApart s where
  not_doubled := fun hs => h (hs.subset List.mem_cons_self)
  head := fun hs => h (List.mem_of_mem_head? hs)
  last := fun hs => h (List.mem_of_getLast? hs)

theorem append (hs : DotsApart s) (ht : DotsApart t) : DotsApart (s ++ t) where
  not_doubled := by
    rw [doubled_append_iff]
    rintro (h | h | h)
    · exact hs.not_doubled h
    · exact ht.not_doubled h
    · exact hs.last h.1
  head := by
    rw [List.head?_append]
    intro h
    rcases Option.or_eq_some_iff.mp h with h | ⟨-, h⟩
    · exact hs.head h
    · exact ht.head h
  last := by
    rw [List.getLast?_append]
    intro h
    rcases Option.or_eq_some_iff.mp h with h | ⟨-, h⟩
    · exact ht.last h
    · exact hs.last h

theorem append_dot (hs : DotsApart s) (ht : DotsApart t) (hs' : s ≠ []) (ht' : t ≠ []) :
    DotsApart (s ++ '.' :: t) where
  not_doubled := by
    rw [doubled_append_iff, List.infix_cons_iff, List.cons_prefix_cons]
    rintro (h | (⟨-, ⟨after, h⟩⟩ | h) | ⟨h, -⟩)
    · exact hs.not_doubled h
    · exact ht.head (by rw [← h]; rfl)
    · exact ht.not_doubled h
    · exact hs.last h
  head := by
    obtain ⟨c, s, rfl⟩ := List.exists_cons_of_ne_nil hs'
    exact hs.head
  last := by
    obtain ⟨c, t, rfl⟩ := List.exists_cons_of_ne_nil ht'
    rw [List.getLast?_append, List.getLast?_cons_cons]
    intro h
    rcases Option.or_eq_some_iff.mp h with h | ⟨h, -⟩
    · exact ht.last h
    · simp at h

theorem intercalate {words : List (List Char)} (h : ∀ word ∈ words, word ≠ [] ∧ '.' ∉ word) :
    DotsApart (['.'].intercalate words) := by
  induction words with
  | nil => exact of_not_mem List.not_mem_nil
  | cons word words ih =>
      rw [List.forall_mem_cons] at h
      cases words with
      | nil => simpa using of_not_mem h.1.2
      | cons next words =>
          have hrest := ih h.2
          have hne : ['.'].intercalate (next :: words) ≠ [] := by
            rw [intercalate_cons]
            simp [(h.2 next List.mem_cons_self).1]
          rw [List.intercalate_cons_cons, List.append_assoc]
          exact (of_not_mem h.1.2).append_dot hrest h.1.1 hne

/-- Apart from the dots, an element has to have allowed characters and no name of a device. -/
theorem isElement {kind : PathKind} (hs : DotsApart s) (hne : s ≠ [])
    (hallowed : ∀ c ∈ s, kind.allows c = true) (hreserved : isReserved (shortName s) = false) :
    IsElement kind s where
  ne_nil := hne
  head := fun h => (hs.head h).elim
  last := hs.last
  allowed := hallowed
  not_reserved := hreserved

/-- Words behind a mark other than a dot. -/
theorem marked {marker : Char} (hmarker : marker ≠ '.') {words : List (List Char)}
    (h : ∀ word ∈ words, word ≠ [] ∧ '.' ∉ word) : DotsApart (Version.marked marker words) := by
  cases words with
  | nil => exact of_not_mem List.not_mem_nil
  | cons word words =>
      have hmark : DotsApart [marker] := of_not_mem (by simpa using Ne.symm hmarker)
      exact hmark.append (intercalate h)

end DotsApart

/-! ## The text of a version -/

namespace Version

theorem dotsApart_text (v : Version) : DotsApart v.text := by
  have hcore : DotsApart v.coreText :=
    .intercalate (forall_mem_map_val (fun _ h => ⟨h.1, dot_not_mem_of_isNumeral h⟩) v.numerals)
  have hprerelease : DotsApart v.prereleaseText :=
    .marked (by decide)
      (forall_mem_map_val (fun _ h => ⟨h.1.1, dot_not_mem_of_isPrereleaseIdentifier h⟩)
        v.prerelease)
  have hbuild : DotsApart v.buildText :=
    .marked (by decide)
      (forall_mem_map_val (fun _ h => ⟨h.1, dot_not_mem_of_isBuildIdentifier h⟩) v.build)
  have hv : DotsApart ['v'] := .of_not_mem (by decide)
  exact hv.append ((hcore.append hprerelease).append hbuild)

/-- Versions consist of letters, digits, dashes, dots and plus signs. -/
theorem mem_text {v : Version} {c : Char} (h : c ∈ v.text) :
    isIdentifierChar c = true ∨ c = '.' ∨ c = '+' := by
  rw [text_eq, List.mem_cons, List.mem_append, List.mem_append] at h
  rcases h with rfl | (hcore | hprerelease) | hbuild
  · exact .inl (by decide)
  · rcases mem_coreText hcore with hdot | hdigit
    · exact .inr (.inl hdot)
    · exact .inl (isIdentifierChar_of_isDigit hdigit)
  · rcases mem_prereleaseText hprerelease with hdot | hc
    · exact .inr (.inl hdot)
    · exact .inl hc
  · rcases mem_buildText hbuild with hplus | hdot | hc
    · exact .inr (.inr hplus)
    · exact .inr (.inl hdot)
    · exact .inl hc

/-- A version is a file name. -/
theorem isElement_text (v : Version) : IsElement .filePath v.text := by
  refine v.dotsApart_text.isElement (List.cons_ne_nil _ _) ?_ (isReserved_shortName_cons_v _)
  intro c hc
  rcases mem_text hc with hc | rfl | rfl
  · rcases Bool.or_eq_true_iff.mp hc with hc | hc
    · simp [PathKind.allows, isAscii_of_isAlphanum hc, hc]
    · rw [beq_iff_eq.mp hc]
      decide
  · decide
  · decide

theorem slash_not_mem_text (v : Version) : '/' ∉ v.text :=
  fun h => absurd (mem_text h) (by decide)

theorem scanFault?_text (v : Version) : scanFault? .filePath v.text = none :=
  scanFault?_of_isElement v.isElement_text v.slash_not_mem_text v.dotsApart_text.not_doubled

theorem elementFault?_of_parse? {s : List Char} {v : Version} (h : parse? s = some v) :
    elementFault? .filePath s = none := by
  rw [parse?_eq_some_iff.mp h, elementFault?_eq_none_iff]
  exact v.isElement_text

/-- A version has an escaped form. -/
theorem isEscapable_text (v : Version) : isEscapable v.text = true := by
  rw [isEscapable_iff]
  intro c hc
  rcases mem_text hc with hc | rfl | rfl
  · rcases Bool.or_eq_true_iff.mp hc with hc | hc
    · refine ⟨?_, isAscii_of_isAlphanum hc⟩
      rintro rfl
      simp at hc
    · rw [beq_iff_eq.mp hc]
      decide
  · decide
  · decide

theorem isEscapable_of_parse? {s : List Char} {v : Version} (h : parse? s = some v) :
    isEscapable s = true := by
  rw [parse?_eq_some_iff.mp h]
  exact v.isEscapable_text

end Version

end ModuleId
