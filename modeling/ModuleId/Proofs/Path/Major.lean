import ModuleId.Proofs.Path.Suffix
import ModuleId.Proofs.Version.Rank

/-! # The major version at the end of a path

The scans that look for a suffix go from the end of a path. Said without them, a path is split where
the longest run of digits and dots at its end begins, if that is behind `/v`. Below the dotted host
a path is split wherever it ends in one of the suffixes of that host. -/

namespace ModuleId

open Text

/-! ## Below the dotted host -/

/-- A nonempty run of digits that does not start with `0`. -/
def IsPositiveNumeral (number : List Char) : Prop :=
  number ≠ [] ∧ number.all Char.isDigit = true ∧ number.head? ≠ some '0'

instance : DecidablePred IsPositiveNumeral := fun _ => inferInstanceAs (Decidable (_ ∧ _ ∧ _))

theorem isPositiveNumeral_iff {number : List Char} :
    IsPositiveNumeral number ↔ IsNumeral number ∧ number ≠ ['0'] := by
  constructor
  · intro h
    obtain ⟨hne, hdigits, hhead⟩ := h
    refine ⟨⟨hne, hdigits, fun hzero => (hhead hzero).elim⟩, ?_⟩
    intro hzero
    exact hhead (by rw [hzero]; rfl)
  · intro h
    obtain ⟨⟨hne, hdigits, hhead⟩, hzero⟩ := h
    exact ⟨hne, hdigits, fun h => hzero (hhead h)⟩

/-- The suffixes below the dotted host: `.v0`, or `.v` and a number without a leading zero, which
the mark for unstable releases may follow. -/
inductive IsDottedSuffix : List Char → Prop
  | zero : IsDottedSuffix ['.', 'v', '0']
  | stable {number} (h : IsPositiveNumeral number) : IsDottedSuffix ('.' :: 'v' :: number)
  | unstable {number} (h : IsPositiveNumeral number) :
      IsDottedSuffix ('.' :: 'v' :: (number ++ unstableMark.toList))

/-- A path below the dotted host in two parts, of which the second is such a suffix. -/
structure IsDottedSplit (path : String) (split : MajorSplit) : Prop where
  dotted : dottedHost.toList <+: path.toList
  append : path = split.stem ++ split.suffix
  suffix : IsDottedSuffix split.suffix.toList

theorem isDottedSuffix_iff {suffix : List Char} :
    IsDottedSuffix suffix ↔ suffix.head? = some '.' ∧ ∃ number, NamesMajor suffix number := by
  constructor
  · intro h
    cases h with
    | zero => exact ⟨rfl, ['0'], .dotted (by decide)⟩
    | stable h => exact ⟨rfl, _, .dotted (isPositiveNumeral_iff.mp h).1⟩
    | unstable h =>
        obtain ⟨hnumeral, hne⟩ := isPositiveNumeral_iff.mp h
        exact ⟨rfl, _, .unstable hnumeral hne⟩
  · intro h
    obtain ⟨hdot, number, hnames⟩ := h
    cases hnames with
    | slashed h => simp at hdot
    | dotted h =>
        by_cases hzero : number = ['0']
        · exact hzero ▸ .zero
        · exact .stable (isPositiveNumeral_iff.mpr ⟨h, hzero⟩)
    | unstable h hne => exact .unstable (isPositiveNumeral_iff.mpr ⟨h, hne⟩)

theorem unnumberedSuffix_eq : unnumberedSuffix = ".v-unstable".toList :=
  rfl

/-- The digits of a suffix without a number are missing. -/
theorem not_isDottedSuffix_unnumberedSuffix : ¬ IsDottedSuffix unnumberedSuffix := by
  rw [isDottedSuffix_iff]
  intro h
  obtain ⟨-, number, hnames⟩ := h
  exact hnames.ne_unnumberedSuffix rfl

/-- The two parts of a split, put together again as a text. -/
theorem toList_eq_append_iff {path : String} {split : MajorSplit} :
    path.toList = split.stem.toList ++ split.suffix.toList ↔ path = split.stem ++ split.suffix := by
  rw [← String.toList_append, String.toList_inj]

theorem splitDotted?_eq_some_iff {path : String} {split : MajorSplit} :
    splitDotted? path = some split ↔
      IsDottedSplit path split ∨
        dottedHost.toList <+: path.toList ∧ path = split.stem ++ split.suffix ∧
          split.suffix = ".v-unstable" := by
  rw [splitDotted?, map_ofParts_eq_some_iff, cutDotted?_eq_some_iff, isDotted,
    List.isPrefixOf_iff_prefix, toList_eq_append_iff, unnumberedSuffix_eq, String.toList_inj,
    ← isDottedSuffix_iff]
  constructor
  · intro h
    obtain ⟨hdotted, hpath, hunnumbered | hsuffix⟩ := h
    · exact .inr ⟨hdotted, hpath, hunnumbered⟩
    · exact .inl ⟨hdotted, hpath, hsuffix⟩
  · intro h
    rcases h with hsplit | ⟨hdotted, hpath, hunnumbered⟩
    · exact ⟨hsplit.dotted, hsplit.append, .inr hsplit.suffix⟩
    · exact ⟨hdotted, hpath, .inl hunnumbered⟩

/-- What is cut off at a dot is part of the last element. -/
theorem slash_not_mem_of_cutDotted? {path stem suffix : List Char}
    (h : cutDotted? path = some (stem, suffix)) : '/' ∉ suffix := by
  have hdigits : ∀ number : List Char, number.all Char.isDigit = true → '/' ∉ number := by
    intro number hnumber hslash
    exact absurd (List.all_eq_true.mp hnumber '/' hslash) (by decide)
  obtain ⟨-, -, rfl | ⟨hdot, number, hnames⟩⟩ := suffix_of_cutDotted? h
  · decide
  · cases hnames with
    | slashed h => simp at hdot
    | dotted hnumber => simpa using hdigits _ hnumber.2.1
    | unstable hnumber hne =>
        have hmark : '/' ∉ unstableMark.toList := by decide
        simpa [hmark] using hdigits _ hnumber.2.1

theorem isDotted_of_cutDotted? {path stem suffix : List Char}
    (h : cutDotted? path = some (stem, suffix)) : isDotted stem = true := by
  obtain ⟨hdotted, hpath, -⟩ := suffix_of_cutDotted? h
  obtain ⟨hhost, hslash⟩ := isDotted_iff.mp hdotted
  rw [hpath, List.mem_append] at hslash
  have hstem : '/' ∈ stem := hslash.resolve_right (slash_not_mem_of_cutDotted? h)
  refine isDotted_iff.mpr ⟨?_, hstem⟩
  obtain ⟨first, rest, rfl⟩ := List.append_of_mem hstem
  rw [hpath, List.append_assoc, List.cons_append, host_append_slash] at hhost
  rw [host_append_slash, hhost]

/-- A path of the dotted host is split at the documented suffixes, in the one way there is, and at
the mark for unstable releases without a number. The host always stays with the stem. -/
theorem splitDotted?_exact (path : String) :
    (∀ split, splitDotted? path = some split ↔
      IsDottedSplit path split ∨
        dottedHost.toList <+: path.toList ∧ path = split.stem ++ split.suffix ∧
          split.suffix = ".v-unstable") ∧
    (∀ split, splitDotted? path = some split → dottedHost.toList <+: split.stem.toList) ∧
    ∀ split other, IsDottedSplit path split → IsDottedSplit path other → split = other := by
  refine ⟨fun split => splitDotted?_eq_some_iff, ?_, ?_⟩
  · intro split h
    have hstem := isDotted_of_cutDotted? (map_ofParts_eq_some_iff.mp h)
    exact List.isPrefixOf_iff_prefix.mp hstem
  · intro split other hsplit hother
    have hfirst := splitDotted?_eq_some_iff.mpr (.inl hsplit)
    have hsecond := splitDotted?_eq_some_iff.mpr (.inl hother)
    exact Option.some.inj (hfirst.symm.trans hsecond)

/-- The mark does not count as part of the number. -/
theorem splitDotted?_exact_yaml :
    IsDottedSplit "gopkg.in/yaml.v2-unstable" ⟨"gopkg.in/yaml", ".v2-unstable"⟩ ∧
      splitDotted? "gopkg.in/yaml.v2-unstable" = some ⟨"gopkg.in/yaml", ".v2-unstable"⟩ ∧
      dottedHost.toList <+: "gopkg.in/yaml".toList := by
  have hsuffix : IsDottedSuffix ".v2-unstable".toList :=
    .unstable (by decide : IsPositiveNumeral ['2'])
  have hsplit : IsDottedSplit "gopkg.in/yaml.v2-unstable" ⟨"gopkg.in/yaml", ".v2-unstable"⟩ :=
    ⟨by decide, by decide, hsuffix⟩
  obtain ⟨hcut, hstem, -⟩ := splitDotted?_exact "gopkg.in/yaml.v2-unstable"
  have hfound := (hcut _).mpr (.inl hsplit)
  exact ⟨hsplit, hfound, hstem _ hfound⟩

/-- A path can be split although its suffix has no number. -/
theorem splitDotted?_without_number :
    splitDotted? "gopkg.in/x.v-unstable" = some ⟨"gopkg.in/x", ".v-unstable"⟩ ∧
      ¬ IsDottedSplit "gopkg.in/x.v-unstable" ⟨"gopkg.in/x", ".v-unstable"⟩ := by
  refine ⟨by decide +kernel, ?_⟩
  intro hsplit
  exact not_isDottedSuffix_unnumberedSuffix (unnumberedSuffix_eq ▸ hsplit.suffix)

/-! ## Below other hosts -/

/-- The numbers from 2 on are those that are split off at a slash. -/
theorem isSuffixNumeral_iff_two_le {number : List Char} :
    IsSuffixNumeral number ↔ IsNumeral number ∧ 2 ≤ numeralValue number := by
  rw [IsSuffixNumeral]
  apply and_congr_right
  intro h
  rw [← not_or, ← numeralValue_le_one_iff h]
  omega

section Slashed

variable {path : String} (hpath : ¬ dottedHost.toList <+: path.toList)

include hpath

theorem splitMajor?_of_not_dotted :
    splitMajor? path = (cutSlashed? path.toList).map .ofParts := by
  have hdotted : isDotted path.toList = false := by
    rw [← Bool.not_eq_true, isDotted, List.isPrefixOf_iff_prefix]
    exact hpath
  simp [splitMajor?, cutMajor?, hdotted]

theorem splitMajor?_eq_self {head run : List Char}
    (hsplit : splitTrailing (fun c => c.isDigit || c == '.') path.toList = (head, run))
    (h : run = [] ∨ ¬ ['/', 'v'] <:+ head) : splitMajor? path = some ⟨path, ""⟩ := by
  rw [splitMajor?_of_not_dotted hpath, cutSlashed?_eq_self hsplit h]
  simp [MajorSplit.ofParts]

/-- Digits and dots behind `/v` are a number from 2 on, or they have no split. -/
theorem splitMajor?_number {stem run : String} (htext : path = stem ++ "/v" ++ run)
    (hne : run ≠ "") (hrun : ∀ c ∈ run.toList, (c.isDigit || c == '.') = true) :
    splitMajor? path =
      if IsSuffixNumeral run.toList then some ⟨stem, "/v" ++ run⟩ else none := by
  have hlist : path.toList = stem.toList ++ '/' :: 'v' :: run.toList := by simp [htext]
  have hne' : run.toList ≠ [] := mt String.toList_eq_nil_iff.mp hne
  have hsuffix : String.ofList ('/' :: 'v' :: run.toList) = "/v" ++ run := by
    simp [String.ext_iff]
  rw [splitMajor?_of_not_dotted hpath, hlist, cutSlashed?_append hne' hrun]
  split
  · simp [MajorSplit.ofParts, hsuffix]
  · rfl

/-- A split loses nothing, and what is split off at a slash is a number from 2 on. -/
theorem append_of_splitMajor? {split : MajorSplit} (h : splitMajor? path = some split) :
    path = split.stem ++ split.suffix ∧
      (split.suffix = "" ∨ ∃ number : String, IsNumeral number.toList ∧
        2 ≤ numeralValue number.toList ∧ split.suffix = "/v" ++ number) := by
  rw [splitMajor?_of_not_dotted hpath, map_ofParts_eq_some_iff] at h
  obtain ⟨htext, hempty | ⟨number, hnumeral, hsuffix⟩⟩ := suffix_of_cutSlashed? h
  · exact ⟨toList_eq_append_iff.mp htext, .inl (String.toList_eq_nil_iff.mp hempty)⟩
  · obtain ⟨hnumeral, htwo⟩ := isSuffixNumeral_iff_two_le.mp hnumeral
    have hsuffix' : split.suffix = "/v" ++ String.ofList number := by
      simp [String.ext_iff, hsuffix]
    exact ⟨toList_eq_append_iff.mp htext,
      .inr ⟨String.ofList number, by simpa using hnumeral, by simpa using htwo, hsuffix'⟩⟩

end Slashed

/-- Away from the dotted host a path is split at the longest run of digits and dots at its end.
Behind `/v` the run is cut off when it is a number from 2 on, and has no split when it is anything
else. -/
theorem splitMajor?_longestRun {path : String} (hpath : ¬ dottedHost.toList <+: path.toList) :
    (∃ head run : String,
      IsTrailingRun (fun c => c.isDigit || c == '.') path.toList head.toList run.toList) ∧
    (∀ head run : String,
      IsTrailingRun (fun c => c.isDigit || c == '.') path.toList head.toList run.toList →
        (∀ stem, run ≠ "" → head = stem ++ "/v" →
          splitMajor? path =
            if '.' ∉ run.toList ∧ run.toList.head? ≠ some '0' ∧ run ≠ "1" then
              some ⟨stem, "/v" ++ run⟩
            else none) ∧
        (run = "" ∨ ¬ "/v".toList <:+ head.toList → splitMajor? path = some ⟨path, ""⟩)) ∧
    (∀ split, splitMajor? path = some split →
      path = split.stem ++ split.suffix ∧
        (split.suffix = "" ∨ ∃ number : String, IsNumeral number.toList ∧
          2 ≤ numeralValue number.toList ∧ split.suffix = "/v" ++ number)) ∧
    ∀ stem number : String, IsNumeral number.toList → 2 ≤ numeralValue number.toList →
      path = stem ++ "/v" ++ number → splitMajor? path = some ⟨stem, "/v" ++ number⟩ := by
  refine ⟨?_, ?_, fun split => append_of_splitMajor? hpath, ?_⟩
  · have hlongest := isTrailingRun_of_splitTrailing
      (rfl : splitTrailing (fun c => c.isDigit || c == '.') path.toList = (_, _))
    exact ⟨String.ofList _, String.ofList _, by simpa only [String.toList_ofList] using hlongest⟩
  · intro head run hlongest
    refine ⟨?_, ?_⟩
    · intro stem hne hhead
      have htext : path = stem ++ "/v" ++ run := by
        rw [← hhead, ← String.toList_inj, String.toList_append]
        exact hlongest.append
      have hnumeral := isSuffixNumeral_iff (mt String.toList_eq_nil_iff.mp hne) hlongest.all
      have hone : run.toList ≠ ['1'] ↔ run ≠ "1" := by
        rw [Ne, Ne, ← String.toList_inj]
        rfl
      rw [splitMajor?_number hpath htext hne hlongest.all]
      simp only [hnumeral, hone]
    · intro h
      have hsplit := splitTrailing_eq_iff_isTrailingRun.mpr hlongest
      exact splitMajor?_eq_self hpath hsplit (h.imp_left String.toList_eq_nil_iff.mpr)
  · intro stem number hnumeral htwo htext
    have hne : number ≠ "" := mt String.toList_eq_nil_iff.mpr hnumeral.1
    rw [splitMajor?_number hpath htext hne (isDigit_or_dot_of_all_isDigit hnumeral.2.1),
      if_pos (isSuffixNumeral_iff_two_le.mpr ⟨hnumeral, htwo⟩)]

/-- A dot in the run leaves no split, and a number from 2 on is found again. -/
theorem splitMajor?_longestRun_pkg :
    IsTrailingRun (fun c => c.isDigit || c == '.') "example.com/pkg/v2.1".toList
        "example.com/pkg/v".toList "2.1".toList ∧
      splitMajor? "example.com/pkg/v2.1" = none ∧
      splitMajor? "example.com/pkg/v21" = some ⟨"example.com/pkg", "/v21"⟩ := by
  have hrun : IsTrailingRun (fun c => c.isDigit || c == '.') "example.com/pkg/v2.1".toList
      "example.com/pkg/v".toList "2.1".toList := splitTrailing_eq_iff_isTrailingRun.mp (by decide)
  have hdotted : ¬ dottedHost.toList <+: "example.com/pkg/v2.1".toList := by decide
  have hnumber : ¬ dottedHost.toList <+: "example.com/pkg/v21".toList := by decide
  obtain ⟨-, hlongest, -⟩ := splitMajor?_longestRun hdotted
  have hsplit := (hlongest _ _ hrun).1 "example.com/pkg" (by decide) (by decide)
  obtain ⟨-, -, -, hback⟩ := splitMajor?_longestRun hnumber
  refine ⟨hrun, ?_, hback "example.com/pkg" "21" (by decide) (by decide) (by decide)⟩
  rw [hsplit, if_neg (by decide)]

end ModuleId
