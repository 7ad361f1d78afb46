import Mathlib
import ModuleId.Proofs.Listing.Piped

/-! # The arrangement of lines

What a line holds does not depend on where it stands, and sorting leaves no trace of the order in
which releases were found. So the lines of a listing can be arranged in any way. -/

namespace ModuleId

open List Text

/-! ## Lines of a text -/

namespace Text

/-- A line that a line feed has ended, without the carriage return that belongs to its end. -/
def withoutReturn (line : List Char) : List Char :=
  (['\r'].isSuffixOf? line).getD line

/-- The lines among the pieces between line feeds. The last piece, which no line feed ends, is a
line unless it is empty. -/
def pieceLines : List (List Char) → List (List Char)
  | [] => []
  | [last] => if last.isEmpty then [] else [last]
  | piece :: next :: pieces => withoutReturn piece :: pieceLines (next :: pieces)

/-- The lines of a text, without their ends. -/
def lines (text : String) : List (List Char) :=
  pieceLines (text.toList.splitOn '\n')

example : lines "a\r\n\nb\r\r\nc\r" = [['a'], [], ['b', '\r'], ['c', '\r']] := by decide

end Text

namespace Listing

/-- A carriage return at the end of a line makes no difference to what is read. -/
theorem readLine_withoutReturn (line : List Char) : readLine (withoutReturn line) = readLine line := by
  unfold withoutReturn
  cases h : ['\r'].isSuffixOf? line with
  | none => rfl
  | some rest =>
      have hline : rest ++ ['\r'] = line := List.isSuffixOf?_eq_some_iff_append_eq.mp h
      have hblank : ∀ c ∈ ['\r'], isBlank c = true := by
        intro c hc
        rw [List.mem_singleton.mp hc]
        decide
      rw [← hline, Option.getD_some]
      exact (readLine_surrounded (List.forall_mem_nil _) hblank rest).symm

theorem readLines_pieceLines (number : Nat) (pieces : List (List Char)) :
    readLines number (pieceLines pieces) = readLines number pieces := by
  induction pieces generalizing number with
  | nil => rfl
  | cons piece pieces ih =>
      cases pieces with
      | nil =>
          by_cases hpiece : piece = []
          · subst piece
            rfl
          · simp [pieceLines, hpiece]
      | cons next pieces =>
          simp only [pieceLines, readLines, readLine_withoutReturn, ih]

/-- Reading a listing reads its lines. -/
theorem read_eq_readLines (text : String) : read text = readLines 1 (lines text) :=
  (readLines_pieceLines 1 _).symm

/-- Lines that are arranged in another way hold the same releases. -/
theorem exists_readLines_of_perm {xs ys : List (List Char)} (h : xs ~ ys) {number : Nat}
    {rs : List Release} (hread : readLines number xs = .ok rs) :
    ∃ others, readLines number ys = .ok others ∧ rs ~ others := by
  obtain ⟨hxs, rfl⟩ := readLines_eq_ok_iff.mp hread
  refine ⟨ys.filterMap onLine?, readLines_eq_ok_iff.mpr ⟨?_, rfl⟩, h.filterMap onLine?⟩
  intro line hline
  exact hxs line (h.mem_iff.mpr hline)

theorem exists_read_of_lines_perm {text other : String} (h : lines text ~ lines other)
    {rs : List Release} (hread : read text = .ok rs) :
    ∃ others, read other = .ok others ∧ rs ~ others := by
  rw [read_eq_readLines] at hread ⊢
  exact exists_readLines_of_perm h hread

end Listing

/-! ## Sorted output -/

namespace Command

/-- Sorting texts with the same lines gives the same output, or fails on both. -/
theorem sortOutput_of_lines_perm {text other : String} (h : lines text ~ lines other) :
    (∀ json, ∃ output, sortOutput text json = .ok output ∧ sortOutput other json = .ok output) ∨
      ∃ error otherError, ∀ json, sortOutput text json = .error (.badLine error) ∧
        sortOutput other json = .error (.badLine otherError) := by
  cases hread : Listing.read text with
  | ok releases =>
      obtain ⟨others, hothers, hperm⟩ := Listing.exists_read_of_lines_perm h hread
      have hsort : Release.sort others = Release.sort releases :=
        (Release.sort_eq_sort_iff _ _).mpr hperm.symm
      left
      intro json
      simp only [sortOutput, hread, hothers, hsort]
      cases json with
      | true => exact ⟨_, rfl, rfl⟩
      | false => exact ⟨_, rfl, rfl⟩
  | error error =>
      right
      cases hother : Listing.read other with
      | error otherError =>
          refine ⟨error, otherError, ?_⟩
          intro json
          simp only [sortOutput, hread, hother, and_self]
      | ok others =>
          -- the lines of the other text can all be read, and these are the same lines
          obtain ⟨releases, hreleases, -⟩ := Listing.exists_read_of_lines_perm h.symm hother
          rw [hreleases] at hread
          contradiction

/-- The order of the lines makes no difference to what `sort` writes to standard output: the same
table and the same JSON, or nothing when a line holds no release. -/
theorem sort_lines_perm {contents others : Contents} {source other : Source}
    {text otherText : String} (htext : contents.text source = .ok text)
    (hother : others.text other = .ok otherText) (h : lines text ~ lines otherText) :
    (∀ json, ∃ output,
        Outcome.ofResult ((sort source json).run contents) = ⟨0, output, ""⟩ ∧
          Outcome.ofResult ((sort other json).run others) = ⟨0, output, ""⟩) ∨
      ∃ error otherError, ∀ json,
        (sort source json).run contents = .error (.badLine error) ∧
          (sort other json).run others = .error (.badLine otherError) ∧
          (Outcome.ofResult ((sort source json).run contents)).output = "" ∧
          (Outcome.ofResult ((sort other json).run others)).output = "" := by
  simp only [run_sort_of_text htext, run_sort_of_text hother]
  rcases sortOutput_of_lines_perm h with hprinted | ⟨error, otherError, hfailed⟩
  · left
    intro json
    obtain ⟨output, hfirst, hsecond⟩ := hprinted json
    rw [hfirst, hsecond]
    exact ⟨output, rfl, rfl⟩
  · refine .inr ⟨error, otherError, ?_⟩
    intro json
    obtain ⟨hfirst, hsecond⟩ := hfailed json
    rw [hfirst, hsecond]
    exact ⟨rfl, rfl, rfl, rfl⟩

/-- Lines may end in either way, and a line that holds no release is refused wherever it stands. -/
theorem sort_lines_perm_crlf :
    lines "a.b/c v1.0.0 h1:x=\r\n\r\n a.b/c@v0.9.0\n" ~
        lines " a.b/c@v0.9.0\n\na.b/c v1.0.0 h1:x=" ∧
      (∃ output,
        Outcome.ofResult ((sort .standardInput true).run
          (piped "a.b/c v1.0.0 h1:x=\r\n\r\n a.b/c@v0.9.0\n")) = ⟨0, output, ""⟩ ∧
        Outcome.ofResult ((sort .standardInput true).run
          (piped " a.b/c@v0.9.0\n\na.b/c v1.0.0 h1:x=")) = ⟨0, output, ""⟩) ∧
      lines "a.b/c@v1 v2\na.b/c\n" ~ lines "a.b/c\r\na.b/c@v1 v2\r\n" ∧
      (sort .standardInput true).run (piped "a.b/c@v1 v2\na.b/c\n") =
        .error (.badLine ⟨1, "a.b/c@v1 v2"⟩) ∧
      ∃ error, (sort .standardInput true).run (piped "a.b/c\r\na.b/c@v1 v2\r\n") =
          .error (.badLine error) ∧
        (Outcome.ofResult ((sort .standardInput true).run
          (piped "a.b/c\r\na.b/c@v1 v2\r\n"))).output = "" := by
  have hlines : lines "a.b/c v1.0.0 h1:x=\r\n\r\n a.b/c@v0.9.0\n" ~
      lines " a.b/c@v0.9.0\n\na.b/c v1.0.0 h1:x=" := by decide
  have hbadLines : lines "a.b/c@v1 v2\na.b/c\n" ~ lines "a.b/c\r\na.b/c@v1 v2\r\n" := by decide
  have hread : Listing.read "a.b/c v1.0.0 h1:x=\r\n\r\n a.b/c@v0.9.0\n" =
      .ok [⟨"a.b/c", "v1.0.0"⟩, ⟨"a.b/c", "v0.9.0"⟩] := by decide +kernel
  have hbad : Listing.read "a.b/c@v1 v2\na.b/c\n" = .error ⟨1, "a.b/c@v1 v2"⟩ := by decide +kernel
  have hfailed : (sort .standardInput true).run (piped "a.b/c@v1 v2\na.b/c\n") =
      .error (.badLine ⟨1, "a.b/c@v1 v2"⟩) := by
    rw [run_sort_of_text (text_piped _ _), sortOutput, hbad]
  refine ⟨hlines, ?_, hbadLines, hfailed, ?_⟩
  · rcases sort_lines_perm (text_piped _ .standardInput) (text_piped _ .standardInput) hlines with
      hprinted | ⟨error, otherError, herror⟩
    · exact hprinted true
    · obtain ⟨hfirst, -⟩ := herror true
      rw [run_sort_of_text (text_piped _ _), sortOutput] at hfirst
      simp [hread] at hfirst
  · rcases sort_lines_perm (text_piped _ .standardInput) (text_piped _ .standardInput) hbadLines with
      hprinted | ⟨error, otherError, herror⟩
    · obtain ⟨output, hfirst, -⟩ := hprinted true
      rw [hfailed] at hfirst
      simp [Outcome.ofResult] at hfirst
    · obtain ⟨-, hsecond, -, hnothing⟩ := herror true
      exact ⟨otherError, hsecond, hnothing⟩

end Command

end ModuleId
