import Mathlib.Data.List.Basic
import ModuleId.Listing
import ModuleId.Proofs.Text.Fields

/-! # Reading listings

The releases of a listing have no blanks, and no `@` in their paths. Such a release is read back
from the row that is printed for it, unless its path is empty and the row shows the version
alone. -/

namespace ModuleId

open Text

/-! ## The releases on lines -/

/-- The releases that can stand in a listing. -/
structure IsListed (r : Release) : Prop where
  at_not_mem : '@' ∉ r.path.toList
  path_not_blank : ∀ c ∈ r.path.toList, isBlank c = false
  version_not_blank : ∀ c ∈ r.version.toList, isBlank c = false

instance : DecidablePred IsListed := fun r =>
  decidable_of_iff
    ('@' ∉ r.path.toList ∧ r.path.toList.all (fun c => !isBlank c) = true ∧
      r.version.toList.all (fun c => !isBlank c) = true)
    ⟨fun h => ⟨h.1, by simpa using h.2.1, by simpa using h.2.2⟩,
      fun h => ⟨h.at_not_mem, by simpa using h.path_not_blank, by simpa using h.version_not_blank⟩⟩

theorem IsListed.newline_not_mem_path {r : Release} (h : IsListed r) : '\n' ∉ r.path.toList := by
  intro hmem
  simpa [isBlank_newline] using h.path_not_blank '\n' hmem

theorem IsListed.newline_not_mem_version {r : Release} (h : IsListed r) :
    '\n' ∉ r.version.toList := by
  intro hmem
  simpa [isBlank_newline] using h.version_not_blank '\n' hmem

namespace Release

/-- A text is the path, or the path, an `@` and the version. -/
theorem ofText_spec (s : String) :
    '@' ∉ (ofText s).path.toList ∧
      (s.toList = (ofText s).path.toList ∧ (ofText s).version = "" ∨
        s.toList = (ofText s).path.toList ++ '@' :: (ofText s).version.toList) := by
  obtain ⟨path, version, hcut⟩ : ∃ path version, cut '@' s.toList = (path, version) :=
    ⟨_, _, rfl⟩
  obtain ⟨hpath, hs⟩ := cut_eq_iff.mp hcut
  have htext : ofText s = ⟨String.ofList path, String.ofList (version.getD [])⟩ := by
    simp only [ofText, hcut]
  rw [htext, hs]
  refine ⟨by simpa using hpath, ?_⟩
  cases version with
  | none => exact .inl (by simp [behind])
  | some version => exact .inr (by simp [behind])

theorem ofText_of_not_mem {s : String} (h : '@' ∉ s.toList) : ofText s = ⟨s, ""⟩ := by
  simp [ofText, cut_of_not_mem h]

/-- The first `@` of the text of a release ends the path, whatever the version holds. -/
theorem ofText_text {r : Release} (h : '@' ∉ r.path.toList) : ofText r.text = r := by
  have htext : r.text.toList = r.path.toList ++ '@' :: r.version.toList := by simp [text]
  rw [ofText, htext, cut_append h]
  simp

theorem isListed_ofText {s : String} (h : ∀ c ∈ s.toList, isBlank c = false) :
    IsListed (ofText s) := by
  obtain ⟨hat, htext⟩ := ofText_spec s
  rcases htext with ⟨hpath, hversion⟩ | hboth
  · refine ⟨hat, hpath ▸ h, ?_⟩
    simp [hversion]
  · rw [hboth] at h
    refine ⟨hat, ?_, ?_⟩
    · intro c hc
      exact h c (List.mem_append_left _ hc)
    · intro c hc
      exact h c (List.mem_append_right _ (List.mem_cons_of_mem _ hc))

/-- A text that starts with an `@` names no path. -/
theorem ofText_path_eq_empty_iff {s : String} (h : s ≠ "") :
    (ofText s).path = "" ↔ ∃ version, s.toList = '@' :: version := by
  obtain ⟨hat, htext⟩ := ofText_spec s
  constructor
  · intro hpath
    rcases htext with ⟨honly, -⟩ | hboth
    · simp [hpath, h] at honly
    · exact ⟨_, by simpa [hpath] using hboth⟩
  · intro ⟨version, hs⟩
    rcases htext with ⟨honly, -⟩ | hboth
    · rw [← honly, hs] at hat
      simp at hat
    · cases hpath : (ofText s).path.toList with
      | nil => simpa using hpath
      | cons c rest =>
          rw [hs, hpath] at hboth
          rw [hpath, ← (List.cons.inj hboth).1] at hat
          simp at hat

end Release

namespace Listing

theorem readLine_eq_ok_none_iff {line : List Char} :
    readLine line = .ok none ↔ fields line = [] := by
  unfold readLine
  split
  case h_1 hfields => simp [hfields]
  case h_2 only hfields => simp [hfields]
  case h_3 path version rest hfields => split <;> simp [hfields]

/-- A release stands on a line as its only field, or as the first two of its fields. -/
theorem readLine_eq_ok_some_iff {line : List Char} {r : Release} :
    readLine line = .ok (some r) ↔
      (∃ only, fields line = [only] ∧ r = Release.ofText (String.ofList only)) ∨
        ∃ path version rest, fields line = path :: version :: rest ∧ '@' ∉ path ∧
          r = ⟨String.ofList path, String.ofList version⟩ := by
  unfold readLine
  split
  case h_1 hfields => simp [hfields]
  case h_2 only hfields => simp [hfields, eq_comm]
  case h_3 path version rest hfields =>
      by_cases hat : '@' ∈ path
      · simp [hfields, hat]
      · simp [hfields, hat, eq_comm]

/-- Blanks around what stands on a line make no difference. -/
theorem readLine_surrounded {before after : List Char} (hbefore : ∀ c ∈ before, isBlank c = true)
    (hafter : ∀ c ∈ after, isBlank c = true) (s : List Char) :
    readLine (before ++ s ++ after) = readLine s := by
  rw [readLine, readLine, fields_surrounded hbefore hafter, trim_surrounded hbefore hafter]

theorem isListed_of_readLine {line : List Char} {r : Release}
    (h : readLine line = .ok (some r)) : IsListed r := by
  rcases readLine_eq_ok_some_iff.mp h with ⟨only, hfields, rfl⟩ |
    ⟨path, version, rest, hfields, hat, rfl⟩
  · have honly : only ∈ fields line := by simp [hfields]
    refine Release.isListed_ofText ?_
    simpa using (not_blank_of_mem_fields honly).2
  · have hpath : path ∈ fields line := by simp [hfields]
    have hversion : version ∈ fields line := by simp [hfields]
    refine ⟨?_, ?_, ?_⟩
    · simpa using hat
    · simpa using (not_blank_of_mem_fields hpath).2
    · simpa using (not_blank_of_mem_fields hversion).2

/-- The release on a line, if the line can be read and is not blank. -/
def onLine? (line : List Char) : Option Release :=
  (readLine line).toOption.join

theorem onLine?_of_readLine {line : List Char} {found : Option Release}
    (h : readLine line = .ok found) : onLine? line = found := by
  rw [onLine?, h]
  cases found <;> rfl

theorem onLine?_eq_some_iff {line : List Char} {r : Release} :
    onLine? line = some r ↔ readLine line = .ok (some r) := by
  cases h : readLine line with
  | error text => simp [onLine?, h, Except.toOption]
  | ok found => rw [onLine?_of_readLine h, Except.ok.injEq]

/-- Each line is read on its own: all of them have to be readable, and they give the releases that
are found on them, in their order. -/
theorem readLines_eq_ok_iff {number : Nat} {lines : List (List Char)} {rs : List Release} :
    readLines number lines = .ok rs ↔
      (∀ line ∈ lines, ∃ found, readLine line = .ok found) ∧ rs = lines.filterMap onLine? := by
  induction lines generalizing number rs with
  | nil => simp [readLines, eq_comm]
  | cons line lines ih =>
      rw [readLines, List.forall_mem_cons, List.filterMap_cons]
      cases hline : readLine line with
      | error text => simp
      | ok found =>
          rw [onLine?_of_readLine hline]
          cases found with
          | none => simp [ih]
          | some release =>
              constructor
              · intro h
                cases hrest : readLines (number + 1) lines with
                | error error => simp [hrest, Except.map] at h
                | ok others =>
                    obtain ⟨hread, rfl⟩ := ih.mp hrest
                    obtain rfl : release :: lines.filterMap onLine? = rs := by
                      simpa [hrest, Except.map] using h
                    exact ⟨⟨⟨_, rfl⟩, hread⟩, rfl⟩
              · intro h
                obtain ⟨⟨-, hread⟩, rfl⟩ := h
                have hrest : readLines (number + 1) lines = .ok _ := ih.mpr ⟨hread, rfl⟩
                simp only [hrest, Except.map]

theorem readLines_cons_of_readLine {line : List Char} {found : Option Release}
    (h : readLine line = .ok found) (number : Nat) (lines : List (List Char)) :
    readLines number (line :: lines) =
      (readLines (number + 1) lines).map (found.toList ++ ·) := by
  rw [readLines, h]
  cases found with
  | none => cases readLines (number + 1) lines <;> rfl
  | some release => rfl

/-- A release of a listing stands on one of its lines. -/
theorem exists_line_of_mem_read {text : String} {rs : List Release} (h : read text = .ok rs)
    {r : Release} (hr : r ∈ rs) :
    ∃ line ∈ text.toList.splitOn '\n', readLine line = .ok (some r) := by
  obtain ⟨-, rfl⟩ := readLines_eq_ok_iff.mp h
  obtain ⟨line, hline, hfound⟩ := List.mem_filterMap.mp hr
  exact ⟨line, hline, onLine?_eq_some_iff.mp hfound⟩

/-- Every line of a listing can be read, and what is found on it belongs to the listing. -/
theorem exists_readLine_of_mem {text : String} {rs : List Release} (h : read text = .ok rs)
    {line : List Char} (hline : line ∈ text.toList.splitOn '\n') :
    ∃ found, readLine line = .ok found ∧ ∀ r ∈ found, r ∈ rs := by
  obtain ⟨hread, rfl⟩ := readLines_eq_ok_iff.mp h
  obtain ⟨found, hfound⟩ := hread line hline
  refine ⟨found, hfound, ?_⟩
  intro r hr
  exact List.mem_filterMap.mpr ⟨line, hline, (onLine?_of_readLine hfound).trans hr⟩

theorem isListed_of_mem_read {text : String} {rs : List Release} (h : read text = .ok rs) :
    ∀ r ∈ rs, IsListed r := by
  intro r hr
  obtain ⟨line, -, hline⟩ := exists_line_of_mem_read h hr
  exact isListed_of_readLine hline

/-! ## Lines without a path -/

/-- The first field of a line starts with an `@`. -/
def LacksPath (line : List Char) : Prop :=
  ∃ version, (fields line).head? = some ('@' :: version)

/-- A release has no path just when its line lacks one. -/
theorem path_eq_empty_iff_of_readLine {line : List Char} {r : Release}
    (h : readLine line = .ok (some r)) : r.path = "" ↔ LacksPath line := by
  rcases readLine_eq_ok_some_iff.mp h with ⟨only, hfields, rfl⟩ |
    ⟨path, version, rest, hfields, hat, rfl⟩
  · have hmem : only ∈ fields line := by simp [hfields]
    have honly : String.ofList only ≠ "" := by simpa using (not_blank_of_mem_fields hmem).1
    rw [Release.ofText_path_eq_empty_iff honly]
    simp [LacksPath, hfields]
  · have hmem : path ∈ fields line := by simp [hfields]
    have hpath : String.ofList path ≠ "" := by simpa using (not_blank_of_mem_fields hmem).1
    have hlacks : ¬ LacksPath line := by
      intro ⟨version, hhead⟩
      obtain rfl : path = '@' :: version := by simpa [hfields] using hhead
      simp at hat
    simp only [hpath, hlacks]

theorem exists_path_eq_empty_iff {text : String} {rs : List Release} (h : read text = .ok rs) :
    (∃ r ∈ rs, r.path = "") ↔ ∃ line ∈ text.toList.splitOn '\n', LacksPath line := by
  constructor
  · intro ⟨r, hr, hpath⟩
    obtain ⟨line, hline, hread⟩ := exists_line_of_mem_read h hr
    exact ⟨line, hline, (path_eq_empty_iff_of_readLine hread).mp hpath⟩
  · intro ⟨line, hline, hlacks⟩
    obtain ⟨found, hread, hfound⟩ := exists_readLine_of_mem h hline
    cases found with
    | none => simp [LacksPath, readLine_eq_ok_none_iff.mp hread] at hlacks
    | some r => exact ⟨r, hfound r rfl, (path_eq_empty_iff_of_readLine hread).mpr hlacks⟩

/-! ## Rows -/

/-- What is read from the row of a release. Without a path the row shows the version alone, which
is then read as a release of its own. -/
def reread (r : Release) : Option Release :=
  if r.path = "" then
    if r.version = "" then none else some (Release.ofText r.version)
  else some r

theorem fields_row {r : Release} (h : IsListed r) :
    fields (row r) = [r.path.toList, r.version.toList].filter fun field => !field.isEmpty := by
  have hpath := fields_of_not_blank h.path_not_blank
  have hversion := fields_of_not_blank h.version_not_blank
  unfold row
  split
  case isTrue hempty =>
      have hnil : r.version.toList = [] := by simpa using hempty
      simp [hpath, hnil, List.filter_cons]
  case isFalse hne =>
      have hspaces : ∀ c ∈ List.replicate (pathWidth - r.path.length) ' ', isBlank c = true := by
        intro c hc
        rw [List.eq_of_mem_replicate hc]
        decide
      rw [fields_append_cons (by decide), fields_append_of_blank hspaces, hpath, hversion,
        ← List.filter_append]
      rfl

theorem readLine_row {r : Release} (h : IsListed r) : readLine (row r) = .ok (reread r) := by
  by_cases hpath : r.path = ""
  · by_cases hversion : r.version = ""
    · simp [readLine, fields_row h, reread, hpath, hversion]
    · simp [readLine, fields_row h, reread, hpath, hversion]
  · by_cases hversion : r.version = ""
    · have hr : Release.ofText r.path = r := by
        rw [Release.ofText_of_not_mem h.at_not_mem, ← hversion]
      simp [readLine, fields_row h, reread, hpath, hversion, hr]
    · simp [readLine, fields_row h, reread, hpath, hversion, h.at_not_mem]

theorem newline_not_mem_row {r : Release} (h : IsListed r) : '\n' ∉ row r := by
  unfold row
  split
  · exact h.newline_not_mem_path
  · simp [h.newline_not_mem_path, h.newline_not_mem_version]

/-- Reading a table reads its rows. -/
theorem read_table {rs : List Release} (h : ∀ r ∈ rs, IsListed r) :
    read (table rs) = .ok (rs.filterMap reread) := by
  have hlines : (table rs).toList.splitOn '\n' = rs.map row ++ [[]] := by
    have hrows : ∀ line ∈ rs.map row, '\n' ∉ line := by
      intro line hline
      obtain ⟨r, hr, rfl⟩ := List.mem_map.mp hline
      exact newline_not_mem_row (h r hr)
    rw [← splitOn_flatMap_append hrows]
    simp [table, List.flatMap_map]
  rw [read, hlines, readLines_eq_ok_iff, List.forall_mem_append, List.forall_mem_map,
    List.forall_mem_singleton]
  refine ⟨⟨fun r hr => ⟨_, readLine_row (h r hr)⟩, _, rfl⟩, ?_⟩
  rw [List.filterMap_append, List.filterMap_map]
  have hrows : ∀ r ∈ rs, (onLine? ∘ row) r = reread r := by
    intro r hr
    exact onLine?_of_readLine (readLine_row (h r hr))
  rw [List.filterMap_congr hrows]
  exact (List.append_nil _).symm

end Listing

end ModuleId
