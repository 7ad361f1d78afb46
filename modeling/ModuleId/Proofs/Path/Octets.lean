import ModuleId.Proofs.Escape.Codec
import ModuleId.Proofs.Path.Suffix
import ModuleId.Proofs.Text.Octets

/-! # Paths are cut by octets

The cuts of a path, written as scans over its octets. Every octet that they look at is one of the
path, and every position that they cut at is one between two characters, so they always have an
answer, which is that of the cuts by characters. -/

namespace ModuleId

open Text

/-! ## Cuts -/

/-- The cut in front of a mark and `v`, when these stand right before a position. -/
def cutMark? (mark : Char) (s : List Char) (position : Nat) :
    Option (Option (List Char × List Char)) := do
  if position ≤ 1 then return none
  let letter ← octetBack? s position 1
  if !octetIn (· == 'v') letter then return none
  let front ← octetBack? s position 2
  if !octetIn (· == mark) front then return none
  return some (← cutAt? (← position.psub 2) s)

/-- Whether what stands from a slash on is refused, given whether a dot is in it. -/
def refusesSlashed? (dotted : Bool) (suffix : List Char) : Option Bool := do
  if dotted || (octets suffix).length ≤ 2 then return true
  let first ← (octets suffix)[2]?
  return octetIn (· == '0') first || suffix == ['/', 'v', '1']

/-- The cut at a slash, by octets. -/
def cutSlashedByOctets? (path : List Char) : Option (Option (List Char × List Char)) := do
  let (position, dotted) ←
    scanBack? (fun c => c.isDigit || c == '.') (· == '.') path (octets path).length false
  if position == (octets path).length then return some (path, [])
  match ← cutMark? '/' path position with
  | none => return some (path, [])
  | some (stem, suffix) =>
      if ← refusesSlashed? dotted suffix then return none
      return some (stem, suffix)

/-- Where the mark for unstable releases begins, or the end of a text without the mark. -/
def markPosition? (s : List Char) : Option Nat :=
  if unstableMark.toList.isSuffixOf s then
    (octets s).length.psub (octets unstableMark.toList).length
  else some (octets s).length

/-- Whether what stands from a dot on is refused. -/
def refusesDotted? (suffix : List Char) : Option Bool := do
  if (octets suffix).length ≤ 2 then return true
  let first ← (octets suffix)[2]?
  return octetIn (· == '0') first && suffix != ['.', 'v', '0']

/-- The cut at a dot, by octets. -/
def cutDottedByOctets? (path : List Char) : Option (Option (List Char × List Char)) := do
  if !isDotted path then return none
  let (position, _) ← scanBack? Char.isDigit (fun _ => false) path (← markPosition? path) false
  match ← cutMark? '.' path position with
  | none => return none
  | some (stem, suffix) =>
      if ← refusesDotted? suffix then return none
      return some (stem, suffix)

/-- The cut in the manner of the path's host, by octets. -/
def cutMajorByOctets? (path : List Char) : Option (Option (List Char × List Char)) :=
  if isDotted path then cutDottedByOctets? path else cutSlashedByOctets? path

def splitMajorByOctets? (path : String) : Option (Option MajorSplit) :=
  (cutMajorByOctets? path.toList).map (·.map .ofParts)

def splitDottedByOctets? (path : String) : Option (Option MajorSplit) :=
  (cutDottedByOctets? path.toList).map (·.map .ofParts)

/-! ## Scans -/

theorem isAsciiClass_isDigit : IsAsciiClass Char.isDigit := by
  intro c hc
  exact isAscii_of_isAlphanum (by simp [Char.isAlphanum, hc])

/-- The run of digits and dots at the end of a path, and whether it holds a dot. -/
theorem scanBack?_slashed (path : List Char) :
    scanBack? (fun c => c.isDigit || c == '.') (· == '.') path (octets path).length false =
      some ((octets (splitTrailing (fun c => c.isDigit || c == '.') path).1).length,
        (splitTrailing (fun c => c.isDigit || c == '.') path).2.contains '.') := by
  have hdot := isAsciiClass_beq (by decide : isAscii '.' = true)
  have hclass : IsAsciiClass fun c => c.isDigit || c == '.' := by
    intro c hc
    exact (Bool.or_eq_true_iff.mp hc).elim (isAsciiClass_isDigit c) (hdot c)
  have hscan := scanBack?_octets hclass hdot path [] false
  rwa [List.append_nil, Bool.false_or, List.any_beq'] at hscan

/-- The run of digits before the mark for unstable releases. -/
theorem scanBack?_dotted (body mark : List Char) :
    scanBack? Char.isDigit (fun _ => false) (body ++ mark) (octets body).length false =
      some ((octets (splitTrailing Char.isDigit body).1).length, false) := by
  have hnone : IsAsciiClass fun _ => false := by simp [IsAsciiClass]
  have hscan := scanBack?_octets isAsciiClass_isDigit hnone body mark false
  rwa [Bool.false_or, List.any_eq_false.mpr (by simp)] at hscan

/-! ## The mark and the `v` -/

section Mark

variable {mark : Char} (hmark : isAscii mark = true)

include hmark

theorem length_octets_mark (tail : List Char) :
    (octets (mark :: 'v' :: tail)).length = (octets tail).length + 2 := by
  simp [octets_cons, utf8EncodeChar_of_isAscii hmark,
    utf8EncodeChar_of_isAscii (c := 'v') (by decide)]

theorem length_octets_mark_le_iff (tail : List Char) :
    (octets (mark :: 'v' :: tail)).length ≤ 2 ↔ tail = [] := by
  rw [length_octets_mark hmark, ← octets_eq_nil_iff, ← List.length_eq_zero_iff]
  omega

theorem cutMark?_append (stem run : List Char) :
    cutMark? mark (stem ++ [mark, 'v'] ++ run) (octets (stem ++ [mark, 'v'])).length =
      some (some (stem, mark :: 'v' :: run)) := by
  have hposition : (octets (stem ++ [mark, 'v'])).length = (octets stem).length + 2 := by
    rw [octets_append, List.length_append, length_octets_mark hmark []]
    rfl
  obtain ⟨letter, hletter, hback⟩ := exists_octetBack? (stem ++ [mark]) run 'v'
  obtain ⟨front, hfront, hback'⟩ := exists_octetBack? stem ('v' :: run) mark
  have hv := octetIn_of_mem (isAsciiClass_beq (c := 'v') (by decide)) hletter
  have hm := octetIn_of_mem (isAsciiClass_beq hmark) hfront
  rw [← octetBack?_add _ _ 1 1, length_octets_concat hmark] at hback'
  have hcut : cutAt? (octets stem).length (stem ++ mark :: 'v' :: run) =
      some (stem, mark :: 'v' :: run) := cutAt?_octets _ _
  simp only [List.append_assoc, List.cons_append, List.nil_append] at hback hposition ⊢
  rw [hposition] at hback ⊢
  simp [cutMark?, hback, hback', hv, hm, hcut]

/-- Where something else stands before the position, no cut is made, and no octet is missed. -/
theorem cutMark?_of_not_suffix {head : List Char} (h : ¬ [mark, 'v'] <:+ head)
    (run : List Char) : cutMark? mark (head ++ run) (octets head).length = some none := by
  by_cases hshort : (octets head).length ≤ 1
  · simp [cutMark?, hshort]
  obtain rfl | ⟨front, c, rfl⟩ := List.eq_nil_or_concat' head
  · simp at hshort
  rw [List.append_assoc, List.singleton_append]
  obtain ⟨letter, hletter, hback⟩ := exists_octetBack? front run c
  have hv := octetIn_of_mem (isAsciiClass_beq (c := 'v') (by decide)) hletter
  by_cases hc : c = 'v'
  · subst hc
    rw [length_octets_concat (by decide)] at hshort hback ⊢
    -- the `v` is one octet, so two octets before the position there is another character
    obtain rfl | ⟨stem, d, rfl⟩ := List.eq_nil_or_concat' front
    · simp at hshort
    have hd : d ≠ mark := by
      rintro rfl
      exact h ⟨stem, by simp⟩
    obtain ⟨octet, hoctet, hback'⟩ := exists_octetBack? stem ('v' :: run) d
    have hm := octetIn_of_mem (isAsciiClass_beq hmark) hoctet
    rw [← octetBack?_add _ _ 1 1] at hback'
    rw [List.append_assoc, List.singleton_append] at hback ⊢
    generalize (octets (stem ++ [d])).length = position at hshort hback hback' ⊢
    simp [cutMark?, hshort, hback, hback', hm, hd]
  · generalize (octets (front ++ [c])).length = position at hshort hback ⊢
    simp [cutMark?, hshort, hback, hv, hc]

/-- Before a position that is reached by a scan, the mark and the `v` are found by octets as they
are by characters. -/
theorem cutMark?_eq (head run : List Char) :
    cutMark? mark (head ++ run) (octets head).length =
      some (([mark, 'v'].isSuffixOf? head).map fun stem => (stem, mark :: 'v' :: run)) := by
  cases hfront : [mark, 'v'].isSuffixOf? head with
  | some stem =>
      obtain rfl := List.isSuffixOf?_eq_some_iff_append_eq.mp hfront
      exact cutMark?_append hmark stem run
  | none =>
      refine cutMark?_of_not_suffix hmark ?_ run
      rw [← List.isSuffixOf_iff_suffix, ← List.isSome_isSuffixOf?_eq_isSuffixOf, hfront]
      exact Bool.false_ne_true

/-- The third octet of a longer text belongs to what follows the `v`. -/
theorem exists_thirdOctet (c : Char) (rest : List Char) :
    ∃ first, (octets (mark :: 'v' :: c :: rest))[2]? = some first ∧
      octetIn (· == '0') first = (c == '0') := by
  obtain ⟨first, hmem, hfirst⟩ := exists_getElem?_octets [mark, 'v'] rest c
  rw [length_octets_mark hmark []] at hfirst
  exact ⟨first, hfirst, octetIn_of_mem (isAsciiClass_beq (by decide)) hmem⟩

end Mark

/-! ## The cut at a slash -/

theorem refusesSlashed?_eq (dotted : Bool) (c : Char) (rest : List Char) :
    refusesSlashed? dotted ('/' :: 'v' :: c :: rest) =
      some (dotted || c == '0' || c :: rest == ['1']) := by
  obtain ⟨first, hfirst, hzero⟩ := exists_thirdOctet (by decide : isAscii '/' = true) c rest
  have hlong := length_octets_mark_le_iff (by decide : isAscii '/' = true) (c :: rest)
  cases dotted with
  | true => rfl
  | false => simp [refusesSlashed?, hlong, hfirst, hzero]

/-- The cut at a slash by octets always has an answer, and it is that of the cut by characters. -/
theorem cutSlashedByOctets?_eq (path : List Char) :
    cutSlashedByOctets? path = some (cutSlashed? path) := by
  obtain ⟨head, run, hsplit⟩ :
      ∃ head run, splitTrailing (fun c => c.isDigit || c == '.') path = (head, run) := ⟨_, _, rfl⟩
  have hscan := scanBack?_slashed path
  rw [hsplit] at hscan
  obtain ⟨rfl, -, -⟩ := splitTrailing_eq_iff.mp hsplit
  cases run with
  | nil =>
      rw [cutSlashed?_eq_self hsplit (.inl rfl)]
      rw [List.append_nil] at hscan ⊢
      simp [cutSlashedByOctets?, hscan]
  | cons c rest =>
      have hinside : ((octets head).length == (octets (head ++ c :: rest)).length) = false := by
        rw [beq_eq_false_iff_ne, octets_append, List.length_append, Ne, left_eq_add,
          List.length_eq_zero_iff, octets_eq_nil_iff]
        exact List.cons_ne_nil c rest
      have hmark := cutMark?_eq (by decide : isAscii '/' = true) head (c :: rest)
      cases hfront : ['/', 'v'].isSuffixOf? head with
      | none =>
          simp only [cutSlashedByOctets?, hscan, hinside, hmark, hfront, cutSlashed?, hsplit,
            Option.bind_eq_bind, Option.bind_some, Option.map_none, Option.pure_def,
            Bool.false_eq_true, if_false]
      | some stem =>
          simp only [cutSlashedByOctets?, hscan, hinside, hmark, hfront, cutSlashed?, hsplit,
            refusesSlashed?_eq, Option.bind_eq_bind, Option.bind_some, Option.map_some,
            Option.pure_def, Bool.false_eq_true, if_false]
          exact (apply_ite some _ _ _).symm

/-! ## The cut at a dot -/

theorem markPosition?_eq (s : List Char) :
    markPosition? s = some (octets (cutUnstable s).1).length := by
  obtain ⟨body, mark, hcut⟩ : ∃ body mark, cutUnstable s = (body, mark) := ⟨_, _, rfl⟩
  obtain ⟨rfl, rfl | ⟨rfl, hno⟩⟩ := cutUnstable_eq_iff.mp hcut
  · simp [markPosition?, hcut, Nat.psub_eq_some, List.isSuffixOf_iff_suffix]
  · rw [List.append_nil] at hcut hno ⊢
    simp [markPosition?, hcut, List.isSuffixOf_iff_suffix, hno]

theorem refusesDotted?_eq (tail : List Char) :
    refusesDotted? ('.' :: 'v' :: tail) = some (refusesTail tail) := by
  have hlong := length_octets_mark_le_iff (by decide : isAscii '.' = true) tail
  cases tail with
  | nil => rfl
  | cons c rest =>
      obtain ⟨first, hfirst, hzero⟩ := exists_thirdOctet (by decide : isAscii '.' = true) c rest
      simp [refusesDotted?, hlong, hfirst, hzero, refusesTail, bne]

/-- The cut at a dot by octets always has an answer, and it is that of the cut by characters. -/
theorem cutDottedByOctets?_eq (path : List Char) :
    cutDottedByOctets? path = some (cutDotted? path) := by
  cases hdotted : isDotted path with
  | false => simp [cutDottedByOctets?, cutDotted?, hdotted]
  | true =>
      obtain ⟨body, mark, hcut⟩ : ∃ body mark, cutUnstable path = (body, mark) := ⟨_, _, rfl⟩
      obtain ⟨head, number, hsplit⟩ :
          ∃ head number, splitTrailing Char.isDigit body = (head, number) := ⟨_, _, rfl⟩
      have hlast := markPosition?_eq path
      rw [hcut] at hlast
      obtain ⟨rfl, -⟩ := cutUnstable_eq_iff.mp hcut
      have hscan := scanBack?_dotted body mark
      rw [hsplit] at hscan
      obtain ⟨rfl, -, -⟩ := splitTrailing_eq_iff.mp hsplit
      have hmark := cutMark?_eq (by decide : isAscii '.' = true) head (number ++ mark)
      rw [← List.append_assoc] at hmark
      cases hfront : ['.', 'v'].isSuffixOf? head with
      | none =>
          simp only [cutDottedByOctets?, hdotted, hlast, hscan, hmark, hfront, cutDotted?, hcut,
            hsplit, Option.bind_eq_bind, Option.bind_some, Option.map_none, Option.pure_def,
            Bool.not_true, Bool.false_eq_true, if_false, if_true]
      | some stem =>
          simp only [cutDottedByOctets?, hdotted, hlast, hscan, hmark, hfront, cutDotted?, hcut,
            hsplit, refusesDotted?_eq, Option.bind_eq_bind, Option.bind_some, Option.map_some,
            Option.pure_def, Bool.not_true, Bool.false_eq_true, if_false, if_true]
          exact (apply_ite some _ _ _).symm

/-- The cut of a path by octets always has an answer, and it is that of the cut by characters. -/
theorem cutMajorByOctets?_eq (path : List Char) :
    cutMajorByOctets? path = some (cutMajor? path) := by
  rw [cutMajorByOctets?, cutMajor?, cutDottedByOctets?_eq, cutSlashedByOctets?_eq]
  split <;> rfl

theorem splitMajorByOctets?_eq (path : String) :
    splitMajorByOctets? path = some (splitMajor? path) := by
  rw [splitMajorByOctets?, cutMajorByOctets?_eq, Option.map_some, splitMajor?]

theorem splitDottedByOctets?_eq (path : String) :
    splitDottedByOctets? path = some (splitDotted? path) := by
  rw [splitDottedByOctets?, cutDottedByOctets?_eq, Option.map_some, splitDotted?]

end ModuleId
