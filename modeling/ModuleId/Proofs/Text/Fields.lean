import ModuleId.Text.Blank
import ModuleId.Text.Split

/-! # The fields of a line

A blank ends a field wherever it stands, so runs of blanks and the blanks at the ends of a line make
no difference. -/

namespace ModuleId.Text

/-- A field is not empty and holds no blank. -/
theorem not_blank_of_mem_fields {s field : List Char} (h : field ∈ fields s) :
    field ≠ [] ∧ ∀ c ∈ field, isBlank c = false := by
  obtain ⟨hpiece, hne⟩ := List.mem_filter.mp h
  exact ⟨by simpa using hne, eq_false_of_mem_splitOnP hpiece⟩

/-- The fields on the two sides of a blank. -/
theorem fields_append_cons {b : Char} (hb : isBlank b = true) (s t : List Char) :
    fields (s ++ b :: t) = fields s ++ fields t := by
  rw [fields, List.splitOnP_append_cons s t hb, List.filter_append]
  rfl

/-- Blanks in front of a text add no field. -/
theorem fields_of_blank_append {s : List Char} (hs : ∀ c ∈ s, isBlank c = true) (t : List Char) :
    fields (s ++ t) = fields t := by
  induction s with
  | nil => rfl
  | cons b s ih =>
      rw [List.forall_mem_cons] at hs
      exact (fields_append_cons hs.1 [] (s ++ t)).trans (ih hs.2)

theorem fields_of_blank {s : List Char} (h : ∀ c ∈ s, isBlank c = true) : fields s = [] := by
  rw [← List.append_nil s, fields_of_blank_append h]
  rfl

/-- Blanks behind a text add no field. -/
theorem fields_append_of_blank {t : List Char} (ht : ∀ c ∈ t, isBlank c = true) (s : List Char) :
    fields (s ++ t) = fields s := by
  cases t with
  | nil => rw [List.append_nil]
  | cons b t =>
      rw [List.forall_mem_cons] at ht
      rw [fields_append_cons ht.1, fields_of_blank ht.2, List.append_nil]

/-- Blanks around a text make no difference to its fields. -/
theorem fields_surrounded {before after : List Char} (hbefore : ∀ c ∈ before, isBlank c = true)
    (hafter : ∀ c ∈ after, isBlank c = true) (s : List Char) :
    fields (before ++ s ++ after) = fields s := by
  rw [fields_append_of_blank hafter, fields_of_blank_append hbefore]

/-- A text without blanks is a field, unless it is empty. -/
theorem fields_of_not_blank {s : List Char} (h : ∀ c ∈ s, isBlank c = false) :
    fields s = [s].filter fun field => !field.isEmpty := by
  rw [fields, List.splitOnP_eq_singleton h]

/-! ## Trimmed text -/

/-- Blanks behind a text are trimmed away with those that the text ends in. -/
theorem trim_append_of_blank {t : List Char} (ht : ∀ c ∈ t, isBlank c = true) (s : List Char) :
    trim (s ++ t) = trim s := by
  have hall : t.dropWhile isBlank = [] := by
    rw [← List.append_nil t, List.dropWhile_append_of_pos ht, List.dropWhile_nil]
  have hreverse : ∀ c ∈ t.reverse, isBlank c = true := by simpa using ht
  unfold trim
  rw [List.dropWhile_append]
  split
  case isTrue hempty => rw [hall, List.isEmpty_iff.mp hempty]
  case isFalse => rw [List.reverse_append, List.dropWhile_append_of_pos hreverse]

theorem trim_surrounded {before after : List Char} (hbefore : ∀ c ∈ before, isBlank c = true)
    (hafter : ∀ c ∈ after, isBlank c = true) (s : List Char) :
    trim (before ++ s ++ after) = trim s := by
  rw [trim_append_of_blank hafter, trim, List.dropWhile_append_of_pos hbefore]
  rfl

/-- Only blanks at the two ends are trimmed away. -/
theorem exists_eq_append_trim (s : List Char) :
    ∃ before after, s = before ++ trim s ++ after ∧ (∀ c ∈ before, isBlank c = true) ∧
      ∀ c ∈ after, isBlank c = true := by
  have hend := splitTrailing_append isBlank (s.dropWhile isBlank)
  refine ⟨s.takeWhile isBlank, (splitTrailing isBlank (s.dropWhile isBlank)).2, ?_, ?_, ?_⟩
  · calc
      s = s.takeWhile isBlank ++ s.dropWhile isBlank := List.takeWhile_append_dropWhile.symm
      _ = s.takeWhile isBlank ++ (trim s ++ (splitTrailing isBlank (s.dropWhile isBlank)).2) :=
        congrArg _ hend.symm
      _ = _ := (List.append_assoc _ _ _).symm
  · exact List.all_eq_true.mp List.all_takeWhile
  · exact all_splitTrailing isBlank _

theorem fields_trim (s : List Char) : fields (trim s) = fields s := by
  obtain ⟨before, after, hs, hbefore, hafter⟩ := exists_eq_append_trim s
  calc
    fields (trim s) = fields (before ++ trim s ++ after) :=
      (fields_surrounded hbefore hafter (trim s)).symm
    _ = fields s := by rw [← hs]

end ModuleId.Text
