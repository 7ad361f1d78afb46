import ModuleId.Proofs.Release.Wanted
import ModuleId.Proofs.Version.Rank

/-! # The rule for releases

A release is checked in three stages: the path, the version, and whether the version goes with the
suffix of the path. Suffixes and versions are matched as texts. The rule says the same by the values
of their numbers. -/

namespace ModuleId

open Text

/-! ## What suffixes expect -/

/-- A nonempty run of digits. -/
def IsNumber (s : List Char) : Prop :=
  s ≠ [] ∧ s.all Char.isDigit = true

instance : DecidablePred IsNumber := fun _ => inferInstanceAs (Decidable (_ ∧ _))

/-- The versions that go with a suffix, and what a mismatch asks for. Below the dotted host untagged
revisions count as major version 1, and a suffix without a number goes with no version. -/
inductive Expects : List Char → (Version → Prop) → String → Prop
  | unsuffixed :
      Expects [] (fun v => numeralValue v.major.val ≤ 1 ∨ v.buildText = "+incompatible".toList)
        "v0 or v1"
  | slashed {number} (h : IsNumber number) :
      Expects ('/' :: 'v' :: number) (fun v => numeralValue v.major.val = numeralValue number)
        (String.ofList ('v' :: number))
  | dotted {number mark} (h : IsNumber number) (hmark : mark = [] ∨ mark = unstableMark.toList) :
      Expects ('.' :: 'v' :: (number ++ mark))
        (fun v => numeralValue v.major.val = numeralValue number ∨
          number = ['1'] ∧ untagged <+: v.text)
        (String.ofList ('v' :: number))
  | unnumbered : Expects unnumberedSuffix (fun _ => False) "v"

theorem Version.isInitial_iff_le_one (v : Version) :
    v.IsInitial ↔ numeralValue v.major.val ≤ 1 := by
  simp [IsInitial, majorText, numeralValue_le_one_iff v.major.property]

theorem Version.major_eq_iff (v : Version) {number : List Char} (h : IsNumeral number) :
    number = v.major.val ↔ numeralValue v.major.val = numeralValue number := by
  rw [numeralValue_inj v.major.property h, eq_comm]

theorem IsNumber.cutUnstable_slashed {number : List Char} (h : IsNumber number) :
    (cutUnstable ('/' :: 'v' :: number)).1 = '/' :: 'v' :: number :=
  congrArg Prod.fst (cutUnstable_append_digits h.1 h.2 ['/', 'v'])

theorem IsNumber.cutUnstable_dotted {number mark : List Char} (h : IsNumber number)
    (hmark : mark = [] ∨ mark = unstableMark.toList) :
    (cutUnstable ('.' :: 'v' :: (number ++ mark))).1 = '.' :: 'v' :: number := by
  rcases hmark with rfl | rfl
  · rw [List.append_nil]
    exact congrArg Prod.fst (cutUnstable_append_digits h.1 h.2 ['.', 'v'])
  · exact congrArg Prod.fst (cutUnstable_append_mark ('.' :: 'v' :: number))

/-- The number of a suffix that is cut off has no leading zero. -/
theorem namesMajor_of_cutMajor? {path stem suffix number : List Char} {c : Char}
    (hcut : cutMajor? path = some (stem, suffix)) (hne : number ≠ [])
    (h : (cutUnstable suffix).1 = c :: 'v' :: number) : NamesMajor suffix number := by
  rcases suffix_of_cutMajor? hcut with rfl | rfl | ⟨other, hnames⟩
  · have hempty : (cutUnstable []).1 = [] := by decide
    simp [hempty] at h
  · have hunnumbered : (cutUnstable unnumberedSuffix).1 = ['.', 'v'] := by decide
    rw [hunnumbered] at h
    exact (hne (List.cons.inj (List.cons.inj h).2).2.symm).elim
  · obtain ⟨mark, -, hother, -⟩ := hnames.stableSuffix_eq
    rw [hother] at h
    obtain rfl : other = number := (List.cons.inj (List.cons.inj h).2).2
    exact hnames

/-- Behind a dot the mark for unstable releases does not count. -/
theorem matchesSuffix_dotted_iff {suffix number : List Char}
    (h : stableSuffix suffix = '.' :: 'v' :: number) (v : Version) :
    matchesSuffix v.text suffix = true ↔
      number = v.major.val ∨ number = ['1'] ∧ untagged <+: v.text := by
  have hgoes : v.goesWith ('.' :: 'v' :: number) = true ↔ number = v.major.val := by
    simp [Version.goesWith, Version.majorText]
  rw [matchesSuffix, h, Version.parse?_text]
  by_cases huntagged : untagged <+: v.text ∧ number = ['1']
  · simp [huntagged]
  · rw [if_neg (by simpa using huntagged), hgoes]
    exact ⟨.inl, fun hnumber => hnumber.resolve_right fun hone => huntagged hone.symm⟩

/-- The suffix of a path goes with the versions that it expects, and asks for them. -/
theorem Expects.spec {path stem suffix : List Char} {meets : Version → Prop} {want : String}
    (h : Expects suffix meets want) (hcut : cutMajor? path = some (stem, suffix)) :
    (∀ v : Version, matchesSuffix v.text suffix = true ↔ meets v) ∧ wantedMajor suffix = want := by
  cases h with
  | unsuffixed =>
      refine ⟨?_, rfl⟩
      intro v
      rw [matchesSuffix_eq_goesWith v.parse?_text (by simp), v.goesWith_nil_iff,
        v.isInitial_iff_le_one, v.isIncompatible_iff]
  | @slashed number h =>
      have hnames := namesMajor_of_cutMajor? hcut h.1 h.cutUnstable_slashed
      refine ⟨?_, hnames.wantedMajor_eq⟩
      intro v
      rw [matchesSuffix_eq_goesWith v.parse?_text (by simp), v.goesWith_slash_iff,
        v.major_eq_iff hnames.isNumeral]
  | @dotted number mark h hmark =>
      have hnames := namesMajor_of_cutMajor? hcut h.1 (h.cutUnstable_dotted hmark)
      have hstable : stableSuffix ('.' :: 'v' :: (number ++ mark)) = '.' :: 'v' :: number := by
        simp [stableSuffix, h.cutUnstable_dotted hmark]
      refine ⟨?_, hnames.wantedMajor_eq⟩
      intro v
      rw [matchesSuffix_dotted_iff hstable, v.major_eq_iff hnames.isNumeral]
  | unnumbered =>
      refine ⟨?_, by decide⟩
      intro v
      simp [matchesSuffix_unnumberedSuffix]

/-- Below a suffix the build metadata of a version makes no difference. -/
theorem Expects.names_or_untagged {path stem suffix : List Char} {meets : Version → Prop}
    {want : String} {v : Version} (h : Expects suffix meets want)
    (hcut : cutMajor? path = some (stem, suffix)) (hne : suffix ≠ []) (hmeets : meets v) :
    (∃ number, NamesMajor suffix number ∧ numeralValue v.major.val = numeralValue number) ∨
      (suffix = ".v1".toList ∨ suffix = ".v1-unstable".toList) ∧ untagged <+: v.text := by
  cases h with
  | unsuffixed => contradiction
  | @slashed number h =>
      exact .inl ⟨number, namesMajor_of_cutMajor? hcut h.1 h.cutUnstable_slashed, hmeets⟩
  | @dotted number mark h hmark =>
      rcases hmeets with hvalue | ⟨rfl, huntagged⟩
      · have hnames := namesMajor_of_cutMajor? hcut h.1 (h.cutUnstable_dotted hmark)
        exact .inl ⟨number, hnames, hvalue⟩
      · refine .inr ⟨?_, huntagged⟩
        rcases hmark with rfl | rfl
        · exact .inl rfl
        · exact .inr rfl
  | unnumbered => exact hmeets.elim

/-- Every suffix that a path can have expects something. -/
theorem exists_expects {path stem suffix : List Char}
    (h : cutMajor? path = some (stem, suffix)) : ∃ meets want, Expects suffix meets want := by
  rcases suffix_of_cutMajor? h with rfl | rfl | ⟨number, hnames⟩
  · exact ⟨_, _, .unsuffixed⟩
  · exact ⟨_, _, .unnumbered⟩
  · have hnumber : IsNumber number := ⟨hnames.isNumeral.1, hnames.isNumeral.2.1⟩
    cases hnames with
    | slashed h => exact ⟨_, _, .slashed hnumber⟩
    | dotted h =>
        have hexpects := Expects.dotted hnumber (.inl rfl)
        rw [List.append_nil] at hexpects
        exact ⟨_, _, hexpects⟩
    | unstable h hne => exact ⟨_, _, .dotted hnumber (.inr rfl)⟩

/-! ## The stages -/

/-- What the check answers: the first stage that fails decides. -/
inductive CheckRule (path version : String) : Except ModuleError Unit → Prop
  | malformedPath {cause} (hpath : checkPath .modulePath path = .error cause) :
      CheckRule path version (.error cause)
  | malformedVersion (hpath : checkPath .modulePath path = .ok ())
      (hversion : Version.parse? version.toList = none) :
      CheckRule path version (.error (.malformedVersion version))
  | mismatched {v split meets want} (hpath : checkPath .modulePath path = .ok ())
      (hversion : Version.parse? version.toList = some v)
      (hsplit : splitMajor? path = some split) (hexpects : Expects split.suffix.toList meets want)
      (hmeets : ¬ meets v) : CheckRule path version (.error (.mismatchedMajor path version want))
  | accepted {v split meets want} (hpath : checkPath .modulePath path = .ok ())
      (hversion : Version.parse? version.toList = some v)
      (hsplit : splitMajor? path = some split) (hexpects : Expects split.suffix.toList meets want)
      (hmeets : meets v) : CheckRule path version (.ok ())

/-- The last stage decides by what the suffix expects. -/
theorem checkRelease_of_expects {path version : String} {v : Version} {split : MajorSplit}
    {meets : Version → Prop} {want : String} [Decidable (meets v)]
    (hpath : checkPath .modulePath path = .ok ())
    (hversion : Version.parse? version.toList = some v) (hsplit : splitMajor? path = some split)
    (h : Expects split.suffix.toList meets want) :
    checkRelease path version =
      if meets v then .ok () else .error (.mismatchedMajor path version want) := by
  have hcut := splitMajor?_eq_some_iff.mp hsplit
  have hsuffix : pathSuffix path.toList = split.suffix.toList := by simp [pathSuffix, hcut]
  obtain ⟨hmatches, hwanted⟩ := h.spec hcut
  rw [checkRelease_of_parse? hversion, hpath, hsuffix, hwanted]
  simp only [Except.bind, hmatches]

theorem CheckRule.execution {path version : String} {result : Except ModuleError Unit}
    (h : CheckRule path version result) : checkRelease path version = result := by
  classical
  cases h with
  | malformedPath hpath => simp [checkRelease, hpath, bind, Except.bind]
  | malformedVersion hpath hversion => simp [checkRelease, hpath, hversion, bind, Except.bind]
  | mismatched hpath hversion hsplit hexpects hmeets =>
      rw [checkRelease_of_expects hpath hversion hsplit hexpects, if_neg hmeets]
  | accepted hpath hversion hsplit hexpects hmeets =>
      rw [checkRelease_of_expects hpath hversion hsplit hexpects, if_pos hmeets]

theorem checkRelease_checkRule (path version : String) :
    CheckRule path version (checkRelease path version) := by
  classical
  cases hpath : checkPath .modulePath path with
  | error cause =>
      have hrule : CheckRule path version _ := .malformedPath hpath
      exact hrule.execution ▸ hrule
  | ok u =>
      cases hversion : Version.parse? version.toList with
      | none =>
          have hrule := CheckRule.malformedVersion hpath hversion
          exact hrule.execution ▸ hrule
      | some v =>
          obtain ⟨-, -, hsome⟩ := (checkPath_modulePath_eq_ok_iff path).mp hpath
          obtain ⟨⟨stem, suffix⟩, hcut⟩ := Option.isSome_iff_exists.mp hsome
          have hsplit : splitMajor? path = some ⟨String.ofList stem, String.ofList suffix⟩ := by
            simp [splitMajor?_eq_some_iff, hcut]
          obtain ⟨meets, want, hexpects⟩ := exists_expects hcut
          rw [← String.toList_ofList (l := suffix)] at hexpects
          rw [checkRelease_of_expects hpath hversion hsplit hexpects]
          split
          case isTrue hmeets => exact .accepted hpath hversion hsplit hexpects hmeets
          case isFalse hmeets => exact .mismatched hpath hversion hsplit hexpects hmeets

/-- A release is checked by the rule and by nothing else. Below a suffix a version is accepted for
its major version or as an untagged revision below `.v1`, and never for being incompatible. -/
theorem checkRelease_eq_iff_checkRule (path version : String) :
    (∀ result, checkRelease path version = result ↔ CheckRule path version result) ∧
      ∀ split v, splitMajor? path = some split → split.suffix ≠ "" →
        Version.parse? version.toList = some v → checkRelease path version = .ok () →
          (∃ number, NamesMajor split.suffix.toList number ∧
            numeralValue v.major.val = numeralValue number) ∨
          (split.suffix = ".v1" ∨ split.suffix = ".v1-unstable") ∧
            "v0.0.0-".toList <+: version.toList := by
  refine ⟨?_, ?_⟩
  · intro result
    refine ⟨?_, CheckRule.execution⟩
    intro h
    exact h ▸ checkRelease_checkRule path version
  · intro split v hsplit hne hversion hchecked
    have hrule := checkRelease_checkRule path version
    rw [hchecked] at hrule
    cases hrule with
    | accepted hpath hversion' hsplit' hexpects hmeets =>
        obtain rfl := Option.some.inj (hsplit.symm.trans hsplit')
        obtain rfl := Option.some.inj (hversion.symm.trans hversion')
        have hcut := splitMajor?_eq_some_iff.mp hsplit
        have hne' := mt String.toList_eq_nil_iff.mp hne
        have haccepted := hexpects.names_or_untagged hcut hne' hmeets
        rw [← Version.parse?_eq_some_iff.mp hversion, String.toList_inj, String.toList_inj]
          at haccepted
        exact haccepted

/-- An incompatible version is refused below the suffix of another major version, and an untagged
revision is accepted below `.v1`. -/
theorem checkRelease_eq_iff_checkRule_yaml :
    CheckRule "example.com/pkg/v2" "v3.0.0+incompatible"
        (.error (.mismatchedMajor "example.com/pkg/v2" "v3.0.0+incompatible" "v2")) ∧
      checkRelease "gopkg.in/yaml.v1-unstable" "v0.0.0-2019" = .ok () ∧
      ∃ v, Version.parse? "v0.0.0-2019".toList = some v ∧
        ((∃ number, NamesMajor ".v1-unstable".toList number ∧
            numeralValue v.major.val = numeralValue number) ∨
          (".v1-unstable" = ".v1" ∨ ".v1-unstable" = ".v1-unstable") ∧
            "v0.0.0-".toList <+: "v0.0.0-2019".toList) := by
  let revision : Version :=
    .full Numeral.zero Numeral.zero Numeral.zero [⟨"2019".toList, by decide⟩] []
  have hrefused : checkRelease "example.com/pkg/v2" "v3.0.0+incompatible" =
      .error (.mismatchedMajor "example.com/pkg/v2" "v3.0.0+incompatible" "v2") := by
    decide +kernel
  have haccepted : checkRelease "gopkg.in/yaml.v1-unstable" "v0.0.0-2019" = .ok () := by
    decide +kernel
  have hsplit : splitMajor? "gopkg.in/yaml.v1-unstable" =
      some ⟨"gopkg.in/yaml", ".v1-unstable"⟩ := by decide +kernel
  have hversion : Version.parse? "v0.0.0-2019".toList = some revision := by decide +kernel
  obtain ⟨hrule, -⟩ := checkRelease_eq_iff_checkRule "example.com/pkg/v2" "v3.0.0+incompatible"
  obtain ⟨-, hsuffixed⟩ := checkRelease_eq_iff_checkRule "gopkg.in/yaml.v1-unstable" "v0.0.0-2019"
  exact ⟨(hrule _).mp hrefused, haccepted, revision, hversion,
    hsuffixed _ _ hsplit (by decide) hversion haccepted⟩

end ModuleId
