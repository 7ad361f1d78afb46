import Mathlib
import ModuleId.Proofs.Listing.Arrangement

/-! # Where reading a listing fails

Reading stops at the first line on which an `@` stands in the first of several fields, and reports
its place among all lines, blank ones included. So texts can be read one after the other: a line
feed between them leaves the lines of both as they are, and moves those of the second on. -/

namespace ModuleId

open Text

/-- The error on a line that comes after some more lines. -/
def LineError.later (error : LineError) (count : Nat) : LineError :=
  { error with line := count + error.line }

namespace Listing

/-! ## Lines that hold no release -/

/-- A line mixes both ways to write a release: it has several fields, and an `@` in the first. -/
def IsMixed (line : List Char) : Prop :=
  ∃ path version rest, fields (trim line) = path :: version :: rest ∧ '@' ∈ path

theorem readLine_eq_error_iff {line : List Char} {text : String} :
    readLine line = .error text ↔ IsMixed line ∧ text = String.ofList (trim line) := by
  unfold IsMixed readLine
  rw [fields_trim]
  split
  case h_1 hfields => simp [hfields]
  case h_2 only hfields => simp [hfields]
  case h_3 path version rest hfields =>
      by_cases hat : '@' ∈ path
      · simp [hfields, hat, eq_comm]
      · simp [hfields, hat]

theorem exists_readLine_eq_ok {line : List Char} (h : ¬ IsMixed line) :
    ∃ found, readLine line = .ok found := by
  cases hline : readLine line with
  | ok found => exact ⟨found, rfl⟩
  | error text => exact (h (readLine_eq_error_iff.mp hline).1).elim

/-! ## Lines behind other lines -/

/-- Lines are numbered on behind other lines. -/
theorem readLines_add (count number : Nat) (lines : List (List Char)) :
    readLines (count + number) lines = (readLines number lines).mapError (·.later count) := by
  induction lines generalizing number with
  | nil => rfl
  | cons line lines ih =>
      cases hline : readLine line with
      | error text => simp [readLines, hline, Except.mapError, LineError.later]
      | ok found =>
          rw [readLines_cons_of_readLine hline, readLines_cons_of_readLine hline, Nat.add_assoc, ih]
          cases readLines (number + 1) lines <;> rfl

theorem readLines_append (number : Nat) (lines others : List (List Char)) :
    readLines number (lines ++ others) = (readLines number lines).bind fun rs =>
      (readLines (number + lines.length) others).map (rs ++ ·) := by
  induction lines generalizing number with
  | nil => cases h : readLines number others <;> simp [readLines, Except.bind, Except.map, h]
  | cons line lines ih =>
      cases hline : readLine line with
      | error text => simp [readLines, hline, Except.bind]
      | ok found =>
          have hlength : number + (line :: lines).length = number + 1 + lines.length := by
            rw [List.length_cons]
            omega
          rw [List.cons_append, readLines_cons_of_readLine hline, readLines_cons_of_readLine hline,
            hlength, ih]
          cases readLines (number + 1) lines with
          | error error => rfl
          | ok rs =>
              cases readLines (number + 1 + lines.length) others with
              | error error => rfl
              | ok rest => simp [Except.bind, Except.map]

/-! ## The first mixed line -/

theorem exists_first_mixed {lines : List (List Char)} (h : ∃ line ∈ lines, IsMixed line) :
    ∃ before line after, lines = before ++ line :: after ∧ (∀ other ∈ before, ¬ IsMixed other) ∧
      IsMixed line := by
  induction lines with
  | nil => simp at h
  | cons first lines ih =>
      by_cases hfirst : IsMixed first
      · exact ⟨[], first, lines, rfl, List.forall_mem_nil _, hfirst⟩
      · rw [List.exists_mem_cons_iff] at h
        obtain ⟨before, line, after, rfl, hbefore, hline⟩ := ih (h.resolve_left hfirst)
        refine ⟨first :: before, line, after, rfl, ?_, hline⟩
        rw [List.forall_mem_cons]
        exact ⟨hfirst, hbefore⟩

theorem exists_readLines_eq_ok {lines : List (List Char)} (h : ∀ line ∈ lines, ¬ IsMixed line)
    (number : Nat) : ∃ rs, readLines number lines = .ok rs := by
  refine ⟨_, readLines_eq_ok_iff.mpr ⟨?_, rfl⟩⟩
  intro line hline
  exact exists_readLine_eq_ok (h line hline)

theorem readLines_of_isMixed {before : List (List Char)} {line : List Char}
    (hbefore : ∀ other ∈ before, ¬ IsMixed other) (hline : IsMixed line) (number : Nat)
    (after : List (List Char)) :
    readLines number (before ++ line :: after) =
      .error ⟨number + before.length, String.ofList (trim line)⟩ := by
  -- The lines before are read to the end, which only moves the number on.
  obtain ⟨rs, hrs⟩ := exists_readLines_eq_ok hbefore number
  have hread := readLine_eq_error_iff.mpr ⟨hline, rfl⟩
  rw [readLines_append, hrs, readLines, hread]
  rfl

/-- Reading fails at the first mixed line, however many lines come before it. -/
theorem readLines_eq_error_iff {number : Nat} {lines : List (List Char)} {error : LineError} :
    readLines number lines = .error error ↔
      ∃ before line after, lines = before ++ line :: after ∧ (∀ other ∈ before, ¬ IsMixed other) ∧
        IsMixed line ∧ error = ⟨number + before.length, String.ofList (trim line)⟩ := by
  constructor
  · intro h
    have hmixed : ∃ line ∈ lines, IsMixed line := by
      by_contra hnone
      push Not at hnone
      obtain ⟨rs, hrs⟩ := exists_readLines_eq_ok hnone number
      rw [h] at hrs
      contradiction
    obtain ⟨before, line, after, rfl, hbefore, hline⟩ := exists_first_mixed hmixed
    rw [readLines_of_isMixed hbefore hline] at h
    exact ⟨before, line, after, rfl, hbefore, hline, (Except.error.inj h).symm⟩
  · intro ⟨before, line, after, hlines, hbefore, hline, herror⟩
    rw [hlines, herror, readLines_of_isMixed hbefore hline]

/-! ## Texts one after the other -/

/-- Reading two texts with a line feed between them reads the one and then the other. -/
theorem read_append_newline (s t : String) :
    read (s ++ "\n" ++ t) = (read s).bind fun rs =>
      ((read t).mapError (·.later (s.toList.count '\n' + 1))).map (rs ++ ·) := by
  have htext : (s ++ "\n" ++ t).toList = s.toList ++ '\n' :: t.toList := by simp
  have hnumber : 1 + (s.toList.count '\n' + 1) = s.toList.count '\n' + 1 + 1 := by omega
  rw [read, htext, List.splitOn_append_cons_self, readLines_append, length_splitOn, hnumber,
    readLines_add]
  rfl

/-- Reading fails when a line is mixed, and reports the first such line by its number among all
lines and by its text. With a line feed between two texts the first failure is the one that is
reported, by its number in the whole, and without a failure the releases of both are read. -/
theorem read_joined (s t : String) :
    (∀ error, read s = .error error → read (s ++ "\n" ++ t) = .error error) ∧
    (∀ rs line text, read s = .ok rs → read t = .error ⟨line, text⟩ →
      read (s ++ "\n" ++ t) = .error ⟨s.toList.count '\n' + 1 + line, text⟩) ∧
    (∀ rs others, read s = .ok rs → read t = .ok others →
      read (s ++ "\n" ++ t) = .ok (rs ++ others)) ∧
    ((∃ error, read s = .error error) ↔ ∃ line ∈ lines s, IsMixed line) ∧
    ∀ error, read s = .error error ↔
      ∃ before line after, lines s = before ++ line :: after ∧ (∀ other ∈ before, ¬ IsMixed other) ∧
        IsMixed line ∧ error = ⟨before.length + 1, String.ofList (trim line)⟩ := by
  have herror : ∀ error, read s = .error error ↔
      ∃ before line after, lines s = before ++ line :: after ∧ (∀ other ∈ before, ¬ IsMixed other) ∧
        IsMixed line ∧ error = ⟨before.length + 1, String.ofList (trim line)⟩ := by
    intro error
    rw [read_eq_readLines, readLines_eq_error_iff]
    simp only [Nat.add_comm 1]
  refine ⟨?_, ?_, ?_, ?_, herror⟩
  · intro error hs
    rw [read_append_newline, hs]
    rfl
  · intro rs line text hs ht
    rw [read_append_newline, hs, ht]
    rfl
  · intro rs others hs ht
    rw [read_append_newline, hs, ht]
    rfl
  · constructor
    · intro ⟨error, hs⟩
      obtain ⟨before, line, after, hlines, -, hmixed, -⟩ := (herror error).mp hs
      exact ⟨line, by simp [hlines], hmixed⟩
    · intro hmixed
      obtain ⟨before, line, after, hlines, hbefore, hline⟩ := exists_first_mixed hmixed
      exact ⟨_, (herror _).mpr ⟨before, line, after, hlines, hbefore, hline, rfl⟩⟩

/-- Blank lines count, and so does the line that a carriage return alone is on. -/
theorem read_joined_seam :
    read "a.b/c v1\r\n\r" = .ok [⟨"a.b/c", "v1"⟩] ∧
      read "\n x@v1 \tv2 \r\n" = .error ⟨2, "x@v1 \tv2"⟩ ∧
      read ("a.b/c v1\r\n\r" ++ "\n" ++ "\n x@v1 \tv2 \r\n") = .error ⟨4, "x@v1 \tv2"⟩ ∧
      read ("\n x@v1 \tv2 \r\n" ++ "\n" ++ "a.b/c v1\r\n\r") = .error ⟨2, "x@v1 \tv2"⟩ ∧
      read ("a.b/c v1\r\n\r" ++ "\n" ++ "a.b/c v1\r\n\r") =
        .ok [⟨"a.b/c", "v1"⟩, ⟨"a.b/c", "v1"⟩] ∧
      ∃ line ∈ lines "\n x@v1 \tv2 \r\n", IsMixed line := by
  have hread : read "a.b/c v1\r\n\r" = .ok [⟨"a.b/c", "v1"⟩] := by decide +kernel
  have hfailed : read "\n x@v1 \tv2 \r\n" = .error ⟨2, "x@v1 \tv2"⟩ := by decide +kernel
  obtain ⟨-, hsecond, -⟩ := read_joined "a.b/c v1\r\n\r" "\n x@v1 \tv2 \r\n"
  obtain ⟨hfirst, -, -, hmixed, -⟩ := read_joined "\n x@v1 \tv2 \r\n" "a.b/c v1\r\n\r"
  obtain ⟨-, -, htwice, -⟩ := read_joined "a.b/c v1\r\n\r" "a.b/c v1\r\n\r"
  exact ⟨hread, hfailed, hsecond _ _ _ hread hfailed, hfirst _ hfailed, htwice _ _ hread hread,
    hmixed.mp ⟨_, hfailed⟩⟩

end Listing

end ModuleId
