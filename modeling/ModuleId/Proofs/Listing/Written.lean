import Mathlib
import ModuleId.Proofs.Listing.Reader
import ModuleId.Proofs.Release.Check
import ModuleId.Proofs.Text.Visible

/-! # Listings that are written by hand

A release can be written on a line in several ways, with any blanks around it, and lines without a
release can stand between. Whatever the way, the releases are read back as they were written. -/

namespace ModuleId

open Text

/-! ## Ways to write a release -/

namespace Listing

/-- Blanks that leave a line as one line. -/
def IsMargin (s : List Char) : Prop :=
  ∀ c ∈ s, isBlank c = true ∧ c ≠ '\n'

instance : DecidablePred IsMargin := fun s =>
  decidable_of_iff (s.all (fun c => isBlank c && c != '\n') = true) (by simp [IsMargin])

/-- A release is written as `path@version`, or as a row, or, if it has a version, as the path and
the version with blanks between them, behind which more fields may follow. -/
inductive IsEntry (r : Release) : List Char → Prop
  | text : IsEntry r r.text.toList
  | row : IsEntry r (row r)
  | fields {gap rest : List Char} (hversion : r.version ≠ "") (hne : gap ≠ []) (hgap : IsMargin gap)
      (hrest : ∀ c ∈ rest.head?, isBlank c = true) (hline : '\n' ∉ rest) :
      IsEntry r (r.path.toList ++ gap ++ r.version.toList ++ rest)

/-- A line with a release on it, or a blank line, without its end. -/
inductive IsLine : Option Release → List Char → Prop
  | blank {line : List Char} (h : IsMargin line) : IsLine none line
  | entry {r : Release} {before s after : List Char} (hbefore : IsMargin before) (h : IsEntry r s)
      (hafter : IsMargin after) : IsLine (some r) (before ++ s ++ after)

/-- A line feed ends a line, with or without a carriage return before it. -/
def lineEnds : List (List Char) :=
  [['\n'], ['\r', '\n']]

/-- A text with these releases, each on a line of its own. The last line need not be ended. -/
inductive IsWritten : List Release → List Char → Prop
  | last {found : Option Release} {line : List Char} (h : IsLine found line) :
      IsWritten found.toList line
  | line {found : Option Release} {line ending text : List Char} {rs : List Release}
      (h : IsLine found line) (hend : ending ∈ lineEnds) (hrest : IsWritten rs text) :
      IsWritten (found.toList ++ rs) (line ++ ending ++ text)

/-! ## Margins -/

theorem IsMargin.isBlank {s : List Char} (h : IsMargin s) : ∀ c ∈ s, isBlank c = true := by
  intro c hc
  exact (h c hc).1

theorem IsMargin.newline_not_mem {s : List Char} (h : IsMargin s) : '\n' ∉ s := by
  intro hmem
  exact (h '\n' hmem).2 rfl

theorem IsMargin.append {s t : List Char} (hs : IsMargin s) (ht : IsMargin t) :
    IsMargin (s ++ t) :=
  List.forall_mem_append.mpr ⟨hs, ht⟩

/-- A line can go on with blanks. -/
theorem IsLine.append {found : Option Release} {line margin : List Char} (h : IsLine found line)
    (hmargin : IsMargin margin) : IsLine found (line ++ margin) := by
  cases h with
  | blank h => exact .blank (h.append hmargin)
  | entry hbefore h hafter =>
      rw [List.append_assoc]
      exact .entry hbefore h (hafter.append hmargin)

/-- A carriage return before a line feed counts among the blanks of its line. -/
theorem exists_margin_of_mem_lineEnds {ending : List Char} (h : ending ∈ lineEnds) :
    ∃ margin, IsMargin margin ∧ ending = margin ++ ['\n'] := by
  rcases List.mem_pair.mp h with rfl | rfl
  · exact ⟨[], List.forall_mem_nil _, rfl⟩
  · exact ⟨['\r'], by decide, rfl⟩

/-! ## Entries -/

section Entry

variable {r : Release} (hr : IsListed r)

include hr

theorem text_not_blank : ∀ c ∈ r.text.toList, isBlank c = false := by
  have htext : r.text.toList = r.path.toList ++ '@' :: r.version.toList := by simp [Release.text]
  rw [htext, List.forall_mem_append, List.forall_mem_cons]
  exact ⟨hr.path_not_blank, by decide, hr.version_not_blank⟩

/-- The path and the version are the first two fields, whatever follows them. -/
theorem fields_path_version (hpath : r.path ≠ "") (hversion : r.version ≠ "") {gap rest : List Char}
    (hne : gap ≠ []) (hgap : IsMargin gap) (hrest : ∀ c ∈ rest.head?, isBlank c = true) :
    fields (r.path.toList ++ gap ++ r.version.toList ++ rest) =
      r.path.toList :: r.version.toList :: fields rest := by
  have hpathField : fields r.path.toList = [r.path.toList] := by
    simp [fields_of_not_blank hr.path_not_blank, hpath]
  have hversionField : fields r.version.toList = [r.version.toList] := by
    simp [fields_of_not_blank hr.version_not_blank, hversion]
  have hbehind : fields (r.version.toList ++ rest) = r.version.toList :: fields rest := by
    cases rest with
    | nil => rw [List.append_nil, hversionField]; rfl
    | cons b rest =>
        have hb : isBlank b = true := hrest b rfl
        have hskip := fields_append_cons hb [] rest
        rw [fields_append_cons hb, hversionField]
        exact congrArg _ hskip.symm
  obtain ⟨b, gap, rfl⟩ := List.exists_cons_of_ne_nil hne
  obtain ⟨hb, hgap⟩ := List.forall_mem_cons.mp hgap.isBlank
  rw [List.append_assoc, List.append_assoc, List.cons_append, fields_append_cons hb,
    fields_of_blank_append hgap, hpathField, hbehind]
  rfl

theorem readLine_entry (hpath : r.path ≠ "") {s : List Char} (h : IsEntry r s) :
    readLine s = .ok (some r) := by
  cases h with
  | text =>
      have hne : r.text.toList ≠ [] := by simp [Release.text]
      have honly : fields r.text.toList = [r.text.toList] := by
        simp [fields_of_not_blank (text_not_blank hr), hne]
      refine readLine_eq_ok_some_iff.mpr (.inl ⟨r.text.toList, honly, ?_⟩)
      rw [String.ofList_toList, Release.ofText_text hr.at_not_mem]
  | row =>
      rw [readLine_row hr, reread, if_neg hpath]
  | fields hversion hne hgap hrest hline =>
      have hfields := fields_path_version hr hpath hversion hne hgap hrest
      refine readLine_eq_ok_some_iff.mpr (.inr ⟨_, _, _, hfields, hr.at_not_mem, ?_⟩)
      simp

theorem newline_not_mem_entry {s : List Char} (h : IsEntry r s) : '\n' ∉ s := by
  cases h with
  | text =>
      intro hmem
      simpa [isBlank_newline] using text_not_blank hr '\n' hmem
  | row => exact newline_not_mem_row hr
  | fields hversion hne hgap hrest hline =>
      simp [hr.newline_not_mem_path, hr.newline_not_mem_version, hgap.newline_not_mem, hline]

end Entry

/-! ## Lines -/

section Line

variable {found : Option Release} (hfound : ∀ r ∈ found, r.path ≠ "" ∧ IsListed r)
  {line : List Char} (h : IsLine found line)

include hfound h

theorem readLine_line : readLine line = .ok found := by
  cases h with
  | blank h => exact readLine_eq_ok_none_iff.mpr (fields_of_blank h.isBlank)
  | @entry r before s after hbefore h hafter =>
      obtain ⟨hpath, hr⟩ := hfound r rfl
      rw [readLine_surrounded hbefore.isBlank hafter.isBlank, readLine_entry hr hpath h]

theorem newline_not_mem_line : '\n' ∉ line := by
  cases h with
  | blank h => exact h.newline_not_mem
  | @entry r before s after hbefore h hafter =>
      simp [hbefore.newline_not_mem, newline_not_mem_entry (hfound r rfl).2 h,
        hafter.newline_not_mem]

end Line

/-- The lines of a written text hold its releases, with whatever number the first of them has. -/
theorem readLines_written {rs : List Release} {text : List Char} (h : IsWritten rs text)
    (hrs : ∀ r ∈ rs, r.path ≠ "" ∧ IsListed r) (number : Nat) :
    readLines number (text.splitOn '\n') = .ok rs := by
  induction h generalizing number with
  | @last found line h =>
      have hfound : ∀ r ∈ found, r.path ≠ "" ∧ IsListed r := by
        intro r hr
        exact hrs r (Option.mem_toList.mpr hr)
      rw [List.splitOn_eq_singleton (newline_not_mem_line hfound h),
        readLines_cons_of_readLine (readLine_line hfound h), readLines]
      simp [Except.map]
  | @line found line ending text rs h hend hrest ih =>
      obtain ⟨hfound, hothers⟩ := List.forall_mem_append.mp hrs
      have hfound' : ∀ r ∈ found, r.path ≠ "" ∧ IsListed r := by
        intro r hr
        exact hfound r (Option.mem_toList.mpr hr)
      -- Lines are cut at line feeds only, so a carriage return stays with the line it ends.
      obtain ⟨margin, hmargin, rfl⟩ := exists_margin_of_mem_lineEnds hend
      have hline := h.append hmargin
      have htext : line ++ (margin ++ ['\n']) ++ text = (line ++ margin) ++ '\n' :: text := by simp
      rw [htext, List.splitOn_append_cons_self,
        List.splitOn_eq_singleton (newline_not_mem_line hfound' hline), List.singleton_append,
        readLines_cons_of_readLine (readLine_line hfound' hline), ih hothers]
      rfl

end Listing

/-- The paths and the versions of checked releases have no blanks. -/
theorem Release.isListed_of_check {r : Release} (h : r.check = .ok ()) :
    r.path ≠ "" ∧ IsListed r := by
  obtain ⟨hpath, v, hv, -⟩ := (checkRelease_eq_ok_iff _ _).mp h
  refine ⟨ne_empty_of_checkPath hpath, at_not_mem_of_checkPath hpath, ?_, ?_⟩
  · intro c hc
    exact isBlank_eq_false_of_isVisible (isVisible_of_checkPath hpath c hc)
  · intro c hc
    exact isBlank_eq_false_of_isVisible (isVisible_of_parse? hv c hc)

namespace Listing

/-- Releases with a path are read back from every text in which each of them is written on a line
of its own. All checked releases can be so written, and only releases that can be are ever read. -/
theorem read_written :
    (∀ rs text, (∀ r ∈ rs, r.path ≠ "" ∧ IsListed r) → IsWritten rs text.toList →
      read text = .ok rs) ∧
    (∀ r : Release, r.check = .ok () → r.path ≠ "" ∧ IsListed r) ∧
    ∀ text rs, read text = .ok rs → ∀ r ∈ rs, IsListed r := by
  refine ⟨?_, fun r => Release.isListed_of_check, fun text rs => isListed_of_mem_read⟩
  intro rs text hrs h
  exact readLines_written h hrs 1

/-- Every way to write a release, with lines that end in every way: a version that holds `@`, a row
without a version, and fields behind a no-break space that are ignored. -/
theorem read_written_forms :
    (∀ r ∈ [⟨"a.b/c", "v1@x"⟩, ⟨"a.b/d", ""⟩, ⟨"rsc.io/q", "v1.5.2"⟩],
      Release.path r ≠ "" ∧ IsListed r) ∧
    IsWritten [⟨"a.b/c", "v1@x"⟩, ⟨"a.b/d", ""⟩, ⟨"rsc.io/q", "v1.5.2"⟩]
      "\ta.b/c@v1@x\r\n \na.b/d \nrsc.io/q \tv1.5.2\u00A0h1:x=".toList ∧
    read "\ta.b/c@v1@x\r\n \na.b/d \nrsc.io/q \tv1.5.2\u00A0h1:x=" =
      .ok [⟨"a.b/c", "v1@x"⟩, ⟨"a.b/d", ""⟩, ⟨"rsc.io/q", "v1.5.2"⟩] ∧
    Release.check ⟨"rsc.io/q", "v1.5.2"⟩ = .ok () ∧ IsListed ⟨"rsc.io/q", "v1.5.2"⟩ := by
  have hrs : ∀ r ∈ [⟨"a.b/c", "v1@x"⟩, ⟨"a.b/d", ""⟩, ⟨"rsc.io/q", "v1.5.2"⟩],
      Release.path r ≠ "" ∧ IsListed r := by decide
  have htext : IsLine (some ⟨"a.b/c", "v1@x"⟩) (['\t'] ++ "a.b/c@v1@x".toList ++ []) :=
    .entry (by decide) .text (by decide)
  have hblank : IsLine none [' '] := .blank (by decide)
  have hrow : IsLine (some ⟨"a.b/d", ""⟩) ([] ++ "a.b/d".toList ++ [' ']) :=
    .entry (by decide) .row (by decide)
  have hfields : IsLine (some ⟨"rsc.io/q", "v1.5.2"⟩)
      ([] ++ ("rsc.io/q".toList ++ [' ', '\t'] ++ "v1.5.2".toList ++ "\u00A0h1:x=".toList) ++ []) :=
    .entry (by decide) (.fields (by decide) (by decide) (by decide) (by simp; decide) (by decide))
      (by decide)
  have hwritten := IsWritten.line htext (by decide : ['\r', '\n'] ∈ lineEnds)
    (.line hblank (by decide : ['\n'] ∈ lineEnds)
      (.line hrow (by decide : ['\n'] ∈ lineEnds) (.last hfields)))
  have hcheck : Release.check ⟨"rsc.io/q", "v1.5.2"⟩ = .ok () := by decide +kernel
  obtain ⟨hread, hlisted, -⟩ := read_written
  exact ⟨hrs, hwritten, hread _ _ hrs hwritten, hcheck, (hlisted _ hcheck).2⟩

end Listing

end ModuleId
