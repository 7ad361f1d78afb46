import Mathlib
import ModuleId.Command.Outcome
import ModuleId.Proofs.Listing.Reader
import ModuleId.Proofs.Order.Sort

/-! # Sorting a sorted listing

The table that is printed for a listing is a listing itself. It is read as the releases it was
printed for, and sorting it changes nothing, unless a release has no path. The row of such a release
gets shorter each time it is read and printed again. -/

namespace ModuleId

open Text

namespace Listing

/-! ## Lengths of tables -/

/-- The length of a row with its line feed. -/
def lineLength (r : Release) : Nat :=
  (row r).length + 1

theorem lineLength_eq (r : Release) :
    lineLength r =
      if r.version = "" then r.path.length + 1
      else max pathWidth r.path.length + r.version.length + 2 := by
  unfold lineLength row
  simp only [String.isEmpty_iff]
  split
  · rw [String.length_toList]
  · simp only [List.length_append, List.length_replicate, List.length_cons, String.length_toList]
    omega

theorem length_table (rs : List Release) : (table rs).length = (rs.map lineLength).sum := by
  rw [table, String.length_ofList, List.length_flatMap]
  simp only [List.length_append, List.length_singleton]
  rfl

theorem length_table_sort (rs : List Release) :
    (table (Release.sort rs)).length = (table rs).length := by
  rw [length_table, length_table]
  exact ((Release.sort_perm rs).map lineLength).sum_eq

/-- The length of what is printed for a row when it is read again. -/
def rereadLength (r : Release) : Nat :=
  ((reread r).map lineLength).getD 0

theorem length_table_reread (rs : List Release) :
    (table (rs.filterMap reread)).length = (rs.map rereadLength).sum := by
  rw [length_table]
  induction rs with
  | nil => rfl
  | cons r rs ih =>
      cases hr : reread r with
      | none => simp [rereadLength, hr, ih]
      | some s => simp [rereadLength, hr, ih]

/-- A row without a path is read as nothing, or as a release whose row is shorter: its version moves
into the column of paths. -/
theorem rereadLength_lt {r : Release} (h : r.path = "") : rereadLength r < lineLength r := by
  by_cases hversion : r.version = ""
  · simp [rereadLength, reread, h, hversion, lineLength]
  · have hagain : rereadLength r = lineLength (Release.ofText r.version) := by
      simp [rereadLength, reread, h, hversion]
    rw [hagain, lineLength_eq, lineLength_eq, if_neg hversion]
    obtain ⟨-, ⟨hpath, hnone⟩ | hboth⟩ := Release.ofText_spec r.version
    · have hlength := congrArg List.length hpath
      rw [String.length_toList, String.length_toList] at hlength
      rw [if_pos hnone]
      omega
    · have hlength := congrArg List.length hboth
      rw [List.length_append, List.length_cons, String.length_toList, String.length_toList,
        String.length_toList] at hlength
      split <;> omega

/-- Each row without a path makes a table shorter when it is read and printed again. -/
theorem length_table_reread_lt {rs : List Release} (h : ∃ r ∈ rs, r.path = "") :
    (table (rs.filterMap reread)).length < (table rs).length := by
  rw [length_table_reread, length_table]
  refine List.sum_lt_sum _ _ ?_ ?_
  · intro r _
    by_cases hpath : r.path = ""
    · exact (rereadLength_lt hpath).le
    · simp [rereadLength, reread, hpath]
  · obtain ⟨r, hr, hpath⟩ := h
    exact ⟨r, hr, rereadLength_lt hpath⟩

/-! ## Tables that are read again -/

/-- The releases of a table are found again just when each of them has a path. -/
theorem filterMap_reread_eq_iff {rs : List Release} :
    rs.filterMap reread = rs ↔ ∀ r ∈ rs, r.path ≠ "" := by
  constructor
  · intro h r hr hpath
    have hlt := length_table_reread_lt ⟨r, hr, hpath⟩
    rw [h] at hlt
    exact lt_irrefl _ hlt
  · intro h
    have hsome : ∀ r ∈ rs, reread r = some r := by
      intro r hr
      simp [reread, h r hr]
    rw [List.filterMap_congr hsome, List.filterMap_some]

/-- Sorting what is read from the table of sorted releases gives the same table just when each
release has a path. -/
theorem table_sort_reread_eq_iff {rs : List Release} (hsorted : Release.sort rs = rs) :
    table (Release.sort (rs.filterMap reread)) = table rs ↔ ∀ r ∈ rs, r.path ≠ "" := by
  constructor
  · intro h r hr hpath
    have hlt := length_table_reread_lt ⟨r, hr, hpath⟩
    rw [← length_table_sort, h] at hlt
    exact lt_irrefl _ hlt
  · intro h
    rw [filterMap_reread_eq_iff.mpr h, hsorted]

end Listing

/-! ## Commands that read what a command has written -/

/-- Every source holds the output of another command. -/
def piped (output : String) : Contents := fun _ => .ok output.toUTF8

theorem text_piped (output : String) (source : Source) :
    (piped output).text source = .ok output := by
  have hvalid : String.fromUTF8? output.toUTF8 = some output := by
    rw [String.fromUTF8?, String.toUTF8_eq_toByteArray, dif_pos output.isValidUTF8]
    rfl
  simp only [piped, Contents.text, hvalid]

namespace Command

theorem run_sort_of_text {contents : Contents} {source : Source} {text : String}
    (h : contents.text source = .ok text) (json : Bool) :
    (sort source json).run contents = sortOutput text json := by
  rw [run, h]
  rfl

theorem run_sort_eq_ok_iff {contents : Contents} {source : Source} {output : String} :
    (sort source false).run contents = .ok output ↔
      ∃ text releases, contents.text source = .ok text ∧ Listing.read text = .ok releases ∧
        output = Listing.table (Release.sort releases) := by
  cases htext : contents.text source with
  | error error => simp [run, htext, bind, Except.bind]
  | ok text =>
      rw [run_sort_of_text htext, sortOutput]
      cases hread : Listing.read text with
      | error error => simp [hread]
      | ok releases => simp [hread, eq_comm]

/-- What `sort` prints can be given to `sort` again. It prints the same again, and finds the sorted
releases again, just when no line of the first text lacks a path. -/
theorem sort_piped {contents : Contents} {source : Source} {output : String}
    (h : (sort source false).run contents = .ok output) :
    ∃ text releases again,
      contents.text source = .ok text ∧
      Listing.read text = .ok releases ∧
      output = Listing.table (Release.sort releases) ∧
      (∀ other, (sort other false).run (piped output) = .ok again) ∧
      (again = output ↔ ∀ r ∈ releases, r.path ≠ "") ∧
      (Listing.read output = .ok (Release.sort releases) ↔ ∀ r ∈ releases, r.path ≠ "") ∧
      ((∀ r ∈ releases, r.path ≠ "") ↔
        ¬ ∃ line ∈ text.toList.splitOn '\n', Listing.LacksPath line) := by
  obtain ⟨text, releases, htext, hread, rfl⟩ := run_sort_eq_ok_iff.mp h
  have hmem : ∀ r, r ∈ Release.sort releases ↔ r ∈ releases :=
    fun r => (Release.sort_perm releases).mem_iff
  have hlisted : ∀ r ∈ Release.sort releases, IsListed r := by
    intro r hr
    exact Listing.isListed_of_mem_read hread r ((hmem r).mp hr)
  have hagain := Listing.read_table hlisted
  have hpaths : (∀ r ∈ releases, r.path ≠ "") ↔ ∀ r ∈ Release.sort releases, r.path ≠ "" := by
    simp only [hmem]
  have hsorted : Release.sort (Release.sort releases) = Release.sort releases :=
    (Release.sort_eq_sort_iff _ _).mpr (Release.sort_perm releases)
  refine ⟨text, releases, Listing.table (Release.sort ((Release.sort releases).filterMap
    Listing.reread)), htext, hread, rfl, ?_, ?_, ?_, ?_⟩
  · intro other
    exact run_sort_eq_ok_iff.mpr ⟨_, _, text_piped _ other, hagain, rfl⟩
  · rw [hpaths]
    exact Listing.table_sort_reread_eq_iff hsorted
  · rw [hpaths, hagain, Except.ok.injEq]
    exact Listing.filterMap_reread_eq_iff
  · rw [← Listing.exists_path_eq_empty_iff hread]
    simp

/-- The version of `@v1` moves to the column of paths when its row is read again. -/
theorem sort_piped_lacking :
    (sort .standardInput false).run (piped "a.b/c v0.1.0\n@v1\n") =
        .ok (Listing.table [⟨"", "v1"⟩, ⟨"a.b/c", "v0.1.0"⟩]) ∧
      ∃ again, (sort .standardInput false).run
          (piped (Listing.table [⟨"", "v1"⟩, ⟨"a.b/c", "v0.1.0"⟩])) = .ok again ∧
        again ≠ Listing.table [⟨"", "v1"⟩, ⟨"a.b/c", "v0.1.0"⟩] := by
  have hread : Listing.read "a.b/c v0.1.0\n@v1\n" = .ok [⟨"a.b/c", "v0.1.0"⟩, ⟨"", "v1"⟩] := by
    rfl
  have hsort : Release.sort [⟨"a.b/c", "v0.1.0"⟩, ⟨"", "v1"⟩] =
      [⟨"", "v1"⟩, ⟨"a.b/c", "v0.1.0"⟩] := by
    refine (Release.sort_isAscending _).eq_of_perm ?_ ((Release.sort_perm _).trans (.swap _ _ _))
    simp only [Release.IsAscending, List.pairwise_pair]
    decide
  have hfirst : (sort .standardInput false).run (piped "a.b/c v0.1.0\n@v1\n") =
      .ok (Listing.table [⟨"", "v1"⟩, ⟨"a.b/c", "v0.1.0"⟩]) :=
    run_sort_eq_ok_iff.mpr ⟨_, _, text_piped _ _, hread, congrArg Listing.table hsort.symm⟩
  refine ⟨hfirst, ?_⟩
  obtain ⟨text, releases, again, htext, hreleases, -, hagain, hsame, -, -⟩ := sort_piped hfirst
  obtain rfl := Except.ok.inj ((text_piped _ _).symm.trans htext)
  obtain rfl := Except.ok.inj (hread.symm.trans hreleases)
  refine ⟨again, hagain .standardInput, ?_⟩
  rw [Ne, hsame]
  simp

end Command

end ModuleId
