import Mathlib.Data.List.Basic
import ModuleId.Path.Check
import ModuleId.Version.Basic

/-! # Where paths are split

The host decides whether a path is split at a dot or at a slash. What is split off at a slash is
the numeral of a major version from 2 on, and a path that ends in `/v` and other digits or dots has
no split. -/

namespace ModuleId

open Text

/-! ## Hosts -/

theorem host_eq_cut (path : List Char) : host path = (cut '/' path).1 :=
  rfl

theorem host_of_slash_not_mem {path : List Char} (h : '/' ∉ path) : host path = path := by
  rw [host_eq_cut, cut_of_not_mem h]

/-- What follows a slash leaves the host as it is. -/
theorem host_append_slash (s t : List Char) : host (s ++ '/' :: t) = host s :=
  cut_append_fst '/' s t

/-- A path is split at a dot when its host is the dotted one and something follows the host. -/
theorem isDotted_iff {path : List Char} :
    isDotted path = true ↔ host path = "gopkg.in".toList ∧ '/' ∈ path := by
  rw [isDotted, List.isPrefixOf_iff_prefix]
  constructor
  · intro h
    obtain ⟨rest, rfl⟩ := h
    have hpath : dottedHost.toList ++ rest = "gopkg.in".toList ++ '/' :: rest := rfl
    rw [hpath, host_append_slash]
    exact ⟨by decide, by simp⟩
  · intro h
    obtain ⟨hhost, hslash⟩ := h
    cases hcut : cut '/' path with
    | mk first rest =>
        obtain ⟨hfirst, hpath⟩ := cut_eq_iff.mp hcut
        obtain rfl : first = "gopkg.in".toList := by rwa [host_eq_cut, hcut] at hhost
        cases rest with
        | none =>
            obtain rfl : path = "gopkg.in".toList := by simpa [behind] using hpath
            contradiction
        | some rest => exact ⟨rest, hpath.symm⟩

/-- A path keeps the manner of its split when a slash follows, unless it is a host alone. -/
theorem isDotted_append_slash {s : List Char} (h : isDotted s = false)
    (hs : s ≠ "gopkg.in".toList) (t : List Char) : isDotted (s ++ '/' :: t) = false := by
  rw [← Bool.not_eq_true, isDotted_iff, host_append_slash]
  intro hdotted
  by_cases hslash : '/' ∈ s
  · rw [isDotted_iff.mpr ⟨hdotted.1, hslash⟩] at h
    contradiction
  · exact hs ((host_of_slash_not_mem hslash).symm.trans hdotted.1)

/-! ## Suffixes -/

theorem map_ofParts_eq_some_iff {parts : Option (List Char × List Char)} {split : MajorSplit} :
    parts.map .ofParts = some split ↔ parts = some (split.stem.toList, split.suffix.toList) := by
  rw [Option.map_eq_some_iff]
  constructor
  · intro h
    obtain ⟨parts, hparts, rfl⟩ := h
    simpa [MajorSplit.ofParts] using hparts
  · intro h
    exact ⟨_, h, by simp [MajorSplit.ofParts]⟩

theorem splitMajor?_eq_some_iff {path : String} {split : MajorSplit} :
    splitMajor? path = some split ↔
      cutMajor? path.toList = some (split.stem.toList, split.suffix.toList) :=
  map_ofParts_eq_some_iff

/-- What is split off at a dot is never empty. -/
theorem isDotted_eq_false_of_cutMajor? {path stem : List Char}
    (h : cutMajor? path = some (stem, [])) : isDotted path = false := by
  cases hdotted : isDotted path with
  | false => rfl
  | true =>
      simp only [cutMajor?, cutDotted?, hdotted, if_true] at h
      split at h
      · simp at h
      · split at h <;> simp at h

/-- The numerals of the major versions from 2 on. -/
def IsSuffixNumeral (number : List Char) : Prop :=
  IsNumeral number ∧ number ≠ ['0'] ∧ number ≠ ['1']

instance : DecidablePred IsSuffixNumeral := fun _ => inferInstanceAs (Decidable (_ ∧ _ ∧ _))

theorem isSuffixNumeral_iff {number : List Char} (hne : number ≠ [])
    (hnumber : ∀ c ∈ number, (c.isDigit || c == '.') = true) :
    IsSuffixNumeral number ↔ '.' ∉ number ∧ number.head? ≠ some '0' ∧ number ≠ ['1'] := by
  constructor
  · intro h
    obtain ⟨⟨-, hdigits, hzero⟩, hne0, hne1⟩ := h
    refine ⟨?_, fun hhead => hne0 (hzero hhead), hne1⟩
    intro hdot
    simpa using List.all_eq_true.mp hdigits '.' hdot
  · intro h
    obtain ⟨hdot, hhead, hne1⟩ := h
    refine ⟨⟨hne, List.all_eq_true.mpr ?_, fun hzero => (hhead hzero).elim⟩, ?_, hne1⟩
    · intro c hc
      rcases Bool.or_eq_true_iff.mp (hnumber c hc) with hdigit | hc'
      · exact hdigit
      · exact (hdot (beq_iff_eq.mp hc' ▸ hc)).elim
    · intro hzero
      exact hhead (by rw [hzero]; rfl)

theorem isDigit_or_dot_of_all_isDigit {number : List Char} (h : number.all Char.isDigit = true) :
    ∀ c ∈ number, (c.isDigit || c == '.') = true := by
  intro c hc
  simp [List.all_eq_true.mp h c hc]

/-- What stands behind `/v` is split off when it is the numeral of a major version from 2 on. -/
theorem cutSlashed?_append {stem number : List Char} (hne : number ≠ [])
    (hnumber : ∀ c ∈ number, (c.isDigit || c == '.') = true) :
    cutSlashed? (stem ++ '/' :: 'v' :: number) =
      if IsSuffixNumeral number then some (stem, '/' :: 'v' :: number) else none := by
  -- the run of digits and dots goes back to the `v`, whatever the stem ends in
  have hsplit : splitTrailing (fun c => c.isDigit || c == '.') (stem ++ '/' :: 'v' :: number) =
      (stem ++ ['/', 'v'], number) := by
    refine splitTrailing_eq_iff.mpr ⟨by simp, hnumber, ?_⟩
    simp
  have hhead : ['/', 'v'].isSuffixOf? (stem ++ ['/', 'v']) = some stem :=
    List.isSuffixOf?_eq_some_iff_append_eq.mpr rfl
  have hrefused : (number.contains '.' || number.head? == some '0' || number == ['1']) = true ↔
      ¬ IsSuffixNumeral number := by
    simp [isSuffixNumeral_iff hne hnumber, Classical.or_iff_not_imp_left]
  obtain ⟨c, rest, rfl⟩ := List.exists_cons_of_ne_nil hne
  simp only [cutSlashed?, hsplit, hhead, hrefused, ite_not]

/-! ## The suffixes that are cut off -/

/-- The mark for unstable releases behind `.v`, with no number between. -/
def unnumberedSuffix : List Char :=
  '.' :: 'v' :: unstableMark.toList

/-- The suffixes that name a major version, with its numeral. -/
inductive NamesMajor : List Char → List Char → Prop
  | slashed {number} (h : IsSuffixNumeral number) : NamesMajor ('/' :: 'v' :: number) number
  | dotted {number} (h : IsNumeral number) : NamesMajor ('.' :: 'v' :: number) number
  | unstable {number} (h : IsNumeral number) (hne : number ≠ ['0']) :
      NamesMajor ('.' :: 'v' :: (number ++ unstableMark.toList)) number

theorem NamesMajor.isNumeral {suffix number : List Char} (h : NamesMajor suffix number) :
    IsNumeral number := by
  cases h with
  | slashed h => exact h.1
  | dotted h => exact h
  | unstable h hne => exact h

theorem NamesMajor.ne_unnumberedSuffix {suffix number : List Char} (h : NamesMajor suffix number) :
    suffix ≠ unnumberedSuffix := by
  intro heq
  have hnumber := h.isNumeral
  cases h with
  | slashed h => simp [unnumberedSuffix] at heq
  | dotted h =>
      obtain rfl : number = unstableMark.toList := by simpa [unnumberedSuffix] using heq
      exact absurd hnumber (by decide)
  | unstable h hne =>
      obtain rfl : number = [] := by simpa [unnumberedSuffix] using heq
      exact hnumber.1 rfl

theorem cutUnstable_eq_iff {s body mark : List Char} :
    cutUnstable s = (body, mark) ↔
      s = body ++ mark ∧
        (mark = unstableMark.toList ∨ mark = [] ∧ ¬ unstableMark.toList <:+ s) := by
  cases hmark : unstableMark.toList.isSuffixOf? s with
  | some rest =>
      obtain rfl := List.isSuffixOf?_eq_some_iff_append_eq.mp hmark
      simp only [cutUnstable, hmark, Prod.mk.injEq]
      constructor
      · rintro ⟨rfl, rfl⟩
        exact ⟨rfl, .inl rfl⟩
      · intro h
        obtain ⟨hs, rfl | ⟨-, hno⟩⟩ := h
        · exact ⟨List.append_cancel_right hs, rfl⟩
        · exact (hno (List.suffix_append rest _)).elim
  | none =>
      have hno : ¬ unstableMark.toList <:+ s := by
        rintro ⟨rest, hs⟩
        simp [List.isSuffixOf?_eq_some_iff_append_eq.mpr hs] at hmark
      simp only [cutUnstable, hmark, Prod.mk.injEq]
      constructor
      · rintro ⟨rfl, rfl⟩
        exact ⟨by simp, .inr ⟨rfl, hno⟩⟩
      · intro h
        obtain ⟨rfl, rfl | ⟨rfl, -⟩⟩ := h
        · exact (hno (List.suffix_append body _)).elim
        · exact ⟨by simp, rfl⟩

theorem cutUnstable_append_mark (s : List Char) :
    cutUnstable (s ++ unstableMark.toList) = (s, unstableMark.toList) :=
  cutUnstable_eq_iff.mpr ⟨rfl, .inl rfl⟩

/-- A text that ends in digits has no mark. -/
theorem cutUnstable_append_digits {number : List Char} (hne : number ≠ [])
    (hdigits : number.all Char.isDigit = true) (s : List Char) :
    cutUnstable (s ++ number) = (s ++ number, []) := by
  refine cutUnstable_eq_iff.mpr ⟨by simp, .inr ⟨rfl, ?_⟩⟩
  rintro ⟨rest, hs⟩
  have hlast : number.getLast? = some 'e' := by
    rw [← List.getLast?_append_of_ne_nil s hne, ← hs]
    exact List.getLast?_append_of_ne_nil rest (by decide)
  exact absurd (List.all_eq_true.mp hdigits 'e' (List.mem_of_getLast? hlast)) (by decide)

/-- The text behind `.v` is refused when it is empty or starts with a zero that does not stand
alone. -/
def refusesTail (tail : List Char) : Bool :=
  tail.isEmpty || (tail.head? == some '0' && tail != ['0'])

theorem refusesTail_digits {number : List Char} (h : number.all Char.isDigit = true) :
    refusesTail number = false ↔ IsNumeral number := by
  simp [refusesTail, IsNumeral, h]

/-- In front of the mark digits may be missing, and a zero does not stand alone. -/
theorem refusesTail_digits_mark {number : List Char} (h : number.all Char.isDigit = true) :
    refusesTail (number ++ unstableMark.toList) = false ↔
      number = [] ∨ IsNumeral number ∧ number ≠ ['0'] := by
  cases number with
  | nil => simp [refusesTail]; decide
  | cons c rest =>
      have hmark : rest ++ unstableMark.toList ≠ [] := by
        intro hnil
        simp [unstableMark] at hnil
      by_cases hc : c = '0'
      · subst hc
        simp [refusesTail, IsNumeral, h, hmark]
      · simp [refusesTail, IsNumeral, h, hc]

/-- The cut at `.v`, once the digits and the mark behind it are found. -/
theorem cutDotted?_append {stem number mark : List Char}
    (hdotted : isDotted (stem ++ '.' :: 'v' :: (number ++ mark)) = true)
    (hdigits : number.all Char.isDigit = true)
    (hcut : cutUnstable (stem ++ '.' :: 'v' :: (number ++ mark)) =
      (stem ++ '.' :: 'v' :: number, mark)) :
    cutDotted? (stem ++ '.' :: 'v' :: (number ++ mark)) =
      if refusesTail (number ++ mark) then none
      else some (stem, '.' :: 'v' :: (number ++ mark)) := by
  have hsplit : splitTrailing Char.isDigit (stem ++ '.' :: 'v' :: number) =
      (stem ++ ['.', 'v'], number) := by
    refine splitTrailing_eq_iff.mpr ⟨by simp, List.all_eq_true.mp hdigits, ?_⟩
    simp
  have hhead : ['.', 'v'].isSuffixOf? (stem ++ ['.', 'v']) = some stem :=
    List.isSuffixOf?_eq_some_iff_append_eq.mpr rfl
  simp only [cutDotted?, hdotted, if_true, hcut, hsplit, hhead, refusesTail]
  rfl

/-- A path that is cut ends in `.v`, digits and perhaps the mark. -/
theorem exists_of_cutDotted? {path : List Char} {split : List Char × List Char}
    (h : cutDotted? path = some split) :
    isDotted path = true ∧
      ∃ front number mark, path = front ++ '.' :: 'v' :: (number ++ mark) ∧
        number.all Char.isDigit = true ∧
        cutUnstable path = (front ++ '.' :: 'v' :: number, mark) := by
  obtain ⟨body, mark, hcut⟩ : ∃ body mark, cutUnstable path = (body, mark) := ⟨_, _, rfl⟩
  obtain ⟨head, number, hsplit⟩ :
      ∃ head number, splitTrailing Char.isDigit body = (head, number) := ⟨_, _, rfl⟩
  obtain ⟨hpath, -⟩ := cutUnstable_eq_iff.mp hcut
  obtain ⟨rfl, hnumber, -⟩ := splitTrailing_eq_iff.mp hsplit
  simp only [cutDotted?, hcut, hsplit] at h
  split at h
  case isFalse => simp at h
  case isTrue hdotted =>
      split at h
      case h_1 => simp at h
      case h_2 front hfront =>
          obtain rfl := List.isSuffixOf?_eq_some_iff_append_eq.mp hfront
          refine ⟨hdotted, front, number, mark, ?_, List.all_eq_true.mpr hnumber, ?_⟩
          · simpa using hpath
          · simpa using hcut

/-- A suffix that is cut off at `.v` names a major version, or it is the mark without a number. -/
theorem suffix_of_cutDotted? {path stem suffix : List Char}
    (h : cutDotted? path = some (stem, suffix)) :
    isDotted path = true ∧ path = stem ++ suffix ∧
      (suffix = unnumberedSuffix ∨
        suffix.head? = some '.' ∧ ∃ number, NamesMajor suffix number) := by
  obtain ⟨hdotted, front, number, mark, rfl, hdigits, hcut⟩ := exists_of_cutDotted? h
  rw [cutDotted?_append hdotted hdigits hcut] at h
  split at h
  case isTrue => simp at h
  case isFalse htail =>
      rw [Bool.not_eq_true] at htail
      obtain ⟨rfl, rfl⟩ : front = stem ∧ '.' :: 'v' :: (number ++ mark) = suffix := by
        simpa using h
      refine ⟨hdotted, rfl, ?_⟩
      rcases (cutUnstable_eq_iff.mp hcut).2 with rfl | ⟨rfl, -⟩
      · rcases (refusesTail_digits_mark hdigits).mp htail with rfl | ⟨hnumeral, hne⟩
        · exact .inl rfl
        · exact .inr ⟨rfl, number, .unstable hnumeral hne⟩
      · rw [List.append_nil] at htail ⊢
        exact .inr ⟨rfl, number, .dotted ((refusesTail_digits hdigits).mp htail)⟩

theorem cutDotted?_append_mark {stem number : List Char}
    (hdotted : isDotted (stem ++ '.' :: 'v' :: (number ++ unstableMark.toList)) = true)
    (hnumber : number = [] ∨ IsNumeral number ∧ number ≠ ['0']) :
    cutDotted? (stem ++ '.' :: 'v' :: (number ++ unstableMark.toList)) =
      some (stem, '.' :: 'v' :: (number ++ unstableMark.toList)) := by
  have hdigits : number.all Char.isDigit = true := by
    rcases hnumber with rfl | ⟨hnumeral, -⟩
    · rfl
    · exact hnumeral.2.1
  have hcut := cutUnstable_append_mark (stem ++ '.' :: 'v' :: number)
  simp only [List.append_assoc, List.cons_append] at hcut
  rw [cutDotted?_append hdotted hdigits hcut, (refusesTail_digits_mark hdigits).mpr hnumber]
  rfl

theorem cutDotted?_append_numeral {stem number : List Char}
    (hdotted : isDotted (stem ++ '.' :: 'v' :: number) = true) (h : IsNumeral number) :
    cutDotted? (stem ++ '.' :: 'v' :: number) = some (stem, '.' :: 'v' :: number) := by
  have hcut := cutUnstable_append_digits h.1 h.2.1 (stem ++ ['.', 'v'])
  have happend := @cutDotted?_append stem number []
  simp only [List.append_nil, List.append_assoc, List.cons_append, List.nil_append] at hcut happend
  rw [happend hdotted h.2.1 hcut, (refusesTail_digits h.2.1).mpr h]
  rfl

/-- Below the dotted host a suffix is cut off exactly when the path ends in it. -/
theorem cutDotted?_eq_some_iff {path stem suffix : List Char} :
    cutDotted? path = some (stem, suffix) ↔
      isDotted path = true ∧ path = stem ++ suffix ∧
        (suffix = unnumberedSuffix ∨
          suffix.head? = some '.' ∧ ∃ number, NamesMajor suffix number) := by
  refine ⟨suffix_of_cutDotted?, ?_⟩
  intro h
  obtain ⟨hdotted, rfl, rfl | ⟨hdot, number, hnames⟩⟩ := h
  · exact cutDotted?_append_mark hdotted (.inl rfl)
  · cases hnames with
    | slashed h => simp at hdot
    | dotted h => exact cutDotted?_append_numeral hdotted h
    | unstable h hne => exact cutDotted?_append_mark hdotted (.inr ⟨h, hne⟩)

/-- A path is left whole when no number stands behind `/v` at its end. -/
theorem cutSlashed?_eq_self {path head run : List Char}
    (hsplit : splitTrailing (fun c => c.isDigit || c == '.') path = (head, run))
    (h : run = [] ∨ ¬ ['/', 'v'] <:+ head) : cutSlashed? path = some (path, []) := by
  cases run with
  | nil => simp only [cutSlashed?, hsplit]
  | cons c rest =>
      have hhead : ¬ ['/', 'v'] <:+ head := h.resolve_left (List.cons_ne_nil c rest)
      cases hfront : ['/', 'v'].isSuffixOf? head with
      | none => simp only [cutSlashed?, hsplit, hfront]
      | some front => exact (hhead ⟨front, List.isSuffixOf?_eq_some_iff_append_eq.mp hfront⟩).elim

/-- A cut at a slash loses nothing, and what is cut off is a number from 2 on behind `/v`. -/
theorem suffix_of_cutSlashed? {path stem suffix : List Char}
    (h : cutSlashed? path = some (stem, suffix)) :
    path = stem ++ suffix ∧
      (suffix = [] ∨ ∃ number, IsSuffixNumeral number ∧ suffix = '/' :: 'v' :: number) := by
  obtain ⟨head, run, hsplit⟩ :
      ∃ head run, splitTrailing (fun c => c.isDigit || c == '.') path = (head, run) := ⟨_, _, rfl⟩
  by_cases hself : run = [] ∨ ¬ ['/', 'v'] <:+ head
  · rw [cutSlashed?_eq_self hsplit hself] at h
    obtain ⟨rfl, rfl⟩ : path = stem ∧ [] = suffix := by simpa using h
    exact ⟨by simp, .inl rfl⟩
  · rw [not_or, not_not] at hself
    obtain ⟨hne, front, rfl⟩ := hself
    obtain ⟨rfl, hrun, -⟩ := splitTrailing_eq_iff.mp hsplit
    rw [List.append_assoc, List.cons_append, List.cons_append, List.nil_append,
      cutSlashed?_append hne hrun] at h
    split at h
    case isTrue hnumeral =>
        obtain ⟨rfl, rfl⟩ : front = stem ∧ '/' :: 'v' :: run = suffix := by simpa using h
        exact ⟨by simp, .inr ⟨run, hnumeral, rfl⟩⟩
    case isFalse => simp at h

/-- A suffix is empty, or it names a major version, or it is the mark without a number. -/
theorem suffix_of_cutMajor? {path stem suffix : List Char}
    (h : cutMajor? path = some (stem, suffix)) :
    suffix = [] ∨ suffix = unnumberedSuffix ∨ ∃ number, NamesMajor suffix number := by
  unfold cutMajor? at h
  split at h
  · obtain ⟨-, -, hsuffix⟩ := suffix_of_cutDotted? h
    exact .inr (hsuffix.imp_right And.right)
  · obtain ⟨-, hempty | ⟨number, hnumeral, rfl⟩⟩ := suffix_of_cutSlashed? h
    · exact .inl hempty
    · exact .inr (.inr ⟨number, .slashed hnumeral⟩)

end ModuleId
