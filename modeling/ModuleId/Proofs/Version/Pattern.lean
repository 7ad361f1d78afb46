import ModuleId.Proofs.Text.Pattern
import ModuleId.Proofs.Version.Grammar
import ModuleId.Text.Ascii

/-! # The pattern of versions

Alternatives overlap in the pattern: a numeral can also begin another identifier, and `-` opens
the prerelease and may stand inside of identifiers. The grammar leaves no choice all the same, so
every way to match a text records the same groups, and it does not matter which way a matcher
prefers. -/

namespace ModuleId

open Text

/-! ## Identifiers and digits -/

/-- A letter or a dash is no digit. -/
theorem isDigit_eq_false_of_letter {c : Char} (h : (c.isAlpha || c == '-') = true) :
    c.isDigit = false := by
  rcases Bool.or_eq_true_iff.mp h with hletter | hdash
  · exact isDigit_eq_false_of_isAlpha hletter
  · rw [beq_iff_eq.mp hdash]
    decide

theorem isIdentifierChar_iff {c : Char} :
    isIdentifierChar c = true ↔ (c.isAlpha || c == '-') = true ∨ c.isDigit = true := by
  simp only [isIdentifierChar, Char.isAlphanum, Bool.or_eq_true]
  exact or_right_comm

theorem isPrereleaseIdentifier_of_isNumeral {s : List Char} (h : IsNumeral s) :
    IsPrereleaseIdentifier s := by
  refine ⟨⟨h.1, List.all_eq_true.mpr ?_⟩, fun _ => h⟩
  intro c hc
  exact isIdentifierChar_of_isDigit (isDigit_of_isNumeral h c hc)

theorem isPrereleaseIdentifier_of_letter {digits rest : List Char} {c : Char}
    (hdigits : ∀ d ∈ digits, d.isDigit = true) (hc : (c.isAlpha || c == '-') = true)
    (hrest : ∀ d ∈ rest, isIdentifierChar d = true) :
    IsPrereleaseIdentifier (digits ++ c :: rest) := by
  refine ⟨⟨by simp, List.all_eq_true.mpr ?_⟩, ?_⟩
  · intro d hd
    rcases List.mem_append.mp hd with hd | hd
    · exact isIdentifierChar_of_isDigit (hdigits d hd)
    · rcases List.mem_cons.mp hd with rfl | hd
      · exact isIdentifierChar_iff.mpr (.inl hc)
      · exact hrest d hd
  · intro hall
    have hdigit := List.all_eq_true.mp hall c (by simp)
    rw [isDigit_eq_false_of_letter hc] at hdigit
    contradiction

/-- What follows the leading digits of an identifier tells whether it is a numeral. -/
theorem isNumeral_or_eq_digits_append_letter {s : List Char} (h : IsPrereleaseIdentifier s) :
    IsNumeral s ∨ ∃ digits c rest, (∀ d ∈ digits, d.isDigit = true) ∧
      (c.isAlpha || c == '-') = true ∧ (∀ d ∈ rest, isIdentifierChar d = true) ∧
      s = digits ++ c :: rest := by
  have hchars := isIdentifierChar_of_isPrereleaseIdentifier h
  have hs := List.takeWhile_append_dropWhile (p := Char.isDigit) (l := s)
  have hdigits : ∀ d ∈ s.takeWhile Char.isDigit, d.isDigit = true :=
    List.all_eq_true.mp List.all_takeWhile
  cases hrest : s.dropWhile Char.isDigit with
  | nil =>
      rw [hrest, List.append_nil] at hs
      rw [hs] at hdigits
      exact .inl (h.2 (List.all_eq_true.mpr hdigits))
  | cons c rest =>
      rw [hrest] at hs
      have hdigit : c.isDigit = false := by
        have hhead := List.head?_dropWhile_not Char.isDigit s
        simpa [hrest] using hhead
      have hletter : (c.isAlpha || c == '-') = true := by
        rcases isIdentifierChar_iff.mp (hchars c (hs ▸ by simp)) with hc | hc
        · exact hc
        · simp [hdigit] at hc
      refine .inr ⟨_, c, rest, hdigits, hletter, ?_, hs.symm⟩
      intro d hd
      exact hchars d (hs ▸ by simp [hd])

namespace Pattern

variable {a : Pattern} {s : List Char} {x : Captures}

/-! ## Words of a version -/

/-- The expression `0|[1-9][0-9]*`. -/
def numeral : Pattern :=
  alt (char '0') (seq (one fun c => c.isDigit && c != '0') (star (one Char.isDigit)))

theorem recognizes_numeral : Recognizes numeral IsNumeral := by
  refine ((recognizes_char '0').alt
    ((recognizes_one _).seq (recognizes_star_one Char.isDigit))).congr ?_
  intro s
  constructor
  · rintro (rfl | ⟨_, t, ⟨c, hc, rfl⟩, ht, rfl⟩)
    · decide
    · rw [Bool.and_eq_true, bne_iff_ne] at hc
      refine ⟨by simp, ?_, ?_⟩
      · simpa [hc.1] using ht
      · intro hzero
        exact (hc.2 (by simpa using hzero)).elim
  · rintro ⟨hne, hdigits, hzero⟩
    obtain ⟨c, t, rfl⟩ := List.exists_cons_of_ne_nil hne
    rw [List.all_cons, Bool.and_eq_true, List.all_eq_true] at hdigits
    by_cases hc : c = '0'
    · exact .inl (hzero (congrArg some hc))
    · exact .inr ⟨[c], t, ⟨c, by simp [hdigits.1, hc], rfl⟩, hdigits.2, rfl⟩

/-- The expression `0|[1-9][0-9]*|[0-9]*[A-Za-z-][0-9A-Za-z-]*`. -/
def identifier : Pattern :=
  alt numeral (seq (star (one Char.isDigit))
    (seq (one fun c => c.isAlpha || c == '-') (star (one isIdentifierChar))))

theorem recognizes_identifier : Recognizes identifier IsPrereleaseIdentifier := by
  refine (recognizes_numeral.alt ((recognizes_star_one Char.isDigit).seq
    ((recognizes_one _).seq (recognizes_star_one isIdentifierChar)))).congr ?_
  intro s
  constructor
  · rintro (h | ⟨digits, _, hdigits, ⟨_, rest, ⟨c, hc, rfl⟩, hrest, rfl⟩, rfl⟩)
    · exact isPrereleaseIdentifier_of_isNumeral h
    · exact isPrereleaseIdentifier_of_letter hdigits hc hrest
  · intro h
    rcases isNumeral_or_eq_digits_append_letter h with h | ⟨digits, c, rest, hdigits, hc, hrest, rfl⟩
    · exact .inl h
    · exact .inr ⟨digits, c :: rest, hdigits, ⟨[c], rest, ⟨c, hc, rfl⟩, hrest, rfl⟩, rfl⟩

/-- The expression `[0-9A-Za-z-]+`. -/
def buildWord : Pattern :=
  plus (one isIdentifierChar)

theorem recognizes_buildWord : Recognizes buildWord IsBuildIdentifier := by
  refine ((recognizes_one _).seq (recognizes_star_one isIdentifierChar)).congr ?_
  intro s
  constructor
  · rintro ⟨_, rest, ⟨c, hc, rfl⟩, hrest, rfl⟩
    exact ⟨by simp, by simpa using ⟨hc, hrest⟩⟩
  · rintro ⟨hne, hchars⟩
    obtain ⟨c, rest, rfl⟩ := List.exists_cons_of_ne_nil hne
    rw [List.all_cons, Bool.and_eq_true, List.all_eq_true] at hchars
    exact ⟨[c], rest, ⟨c, hchars.1, rfl⟩, hchars.2, rfl⟩

/-! ## Whole versions -/

/-- A numeral behind a mark, recorded without it, and what follows. -/
def numeralThen (marker : Char) (number : Nat) (rest : Pattern) : Pattern :=
  seq (char marker) (seq (group number numeral) rest)

/-- Words behind a mark, recorded with it, or nothing. -/
def optMarked (marker : Char) (number : Nat) (word : Pattern) : Pattern :=
  opt (group number (seq (char marker) (dotted word)))

def identifierTail : Pattern :=
  seq (optMarked '-' 4 identifier) (optMarked '+' 5 buildWord)

/-- The expression `v(N)(?:\.(N)(?:\.(N)(-I(?:\.I)*)?(\+B(?:\.B)*)?)?)?` for whole texts, where `N`,
`I` and `B` are the expressions for numerals, identifiers and build words. -/
def version : Pattern :=
  numeralThen 'v' 1 (opt (numeralThen '.' 2 (opt (numeralThen '.' 3 identifierTail))))

theorem Recognizes.group_iff {p : List Char → Prop} (h : Recognizes a p) {n : Nat} :
    Matches (group n a) s x ↔ p s ∧ x = [(n, s)] := by
  rw [matches_group_iff]
  constructor
  · rintro ⟨y, hy, rfl⟩
    obtain ⟨rfl, hs⟩ := (h s y).mp hy
    exact ⟨hs, rfl⟩
  · rintro ⟨hs, rfl⟩
    exact ⟨[], (h s []).mpr ⟨rfl, hs⟩, rfl⟩

theorem numeralThen_iff {marker : Char} {n : Nat} :
    Matches (numeralThen marker n a) s x ↔ ∃ word t y, IsNumeral word ∧ Matches a t y ∧
      s = marker :: word ++ t ∧ x = (n, word) :: y := by
  simp only [numeralThen, matches_seq_iff, recognizes_numeral.group_iff]
  constructor
  · rintro ⟨_, _, _, _, hmarker, ⟨word, _, t, y, ⟨hword, rfl⟩, ht, rfl, rfl⟩, rfl, rfl⟩
    obtain ⟨rfl, rfl⟩ := (recognizes_char marker _ _).mp hmarker
    exact ⟨word, t, y, hword, ht, by simp, rfl⟩
  · rintro ⟨word, t, y, hword, ht, rfl, rfl⟩
    exact ⟨[marker], [], word ++ t, (n, word) :: y, (recognizes_char marker _ _).mpr ⟨rfl, rfl⟩,
      ⟨word, [(n, word)], t, y, ⟨hword, rfl⟩, ht, rfl, rfl⟩, rfl, rfl⟩

theorem Recognizes.optMarked_iff {p : List Char → Prop} (h : Recognizes a p) {marker : Char}
    {n : Nat} :
    Matches (optMarked marker n a) s x ↔
      ∃ part : Option (List Char), (∀ t ∈ part, IsDotSeparated p t) ∧ s = behind marker part ∧
        x = (part.map fun t => (n, marker :: t)).toList := by
  rw [optMarked, matches_opt_iff, ((recognizes_char marker).seq h.dotted).group_iff]
  constructor
  · rintro (⟨⟨_, t, rfl, ht, rfl⟩, rfl⟩ | ⟨rfl, rfl⟩)
    · exact ⟨some t, by simpa using ht, rfl, rfl⟩
    · exact ⟨none, by simp, rfl, rfl⟩
  · rintro ⟨part, hpart, rfl, rfl⟩
    cases part with
    | none => exact .inr ⟨rfl, rfl⟩
    | some t => exact .inl ⟨⟨[marker], t, rfl, hpart t rfl, rfl⟩, rfl⟩

theorem identifierTail_iff :
    Matches identifierTail s x ↔ ∃ prerelease build,
      (∀ t ∈ prerelease, IsDotSeparated IsPrereleaseIdentifier t) ∧
      (∀ t ∈ build, IsDotSeparated IsBuildIdentifier t) ∧
      s = behind '-' prerelease ++ behind '+' build ∧
      x = (prerelease.map fun t => (4, '-' :: t)).toList ++
        (build.map fun t => (5, '+' :: t)).toList := by
  rw [identifierTail, matches_seq_iff]
  simp only [recognizes_identifier.optMarked_iff, recognizes_buildWord.optMarked_iff]
  constructor
  · rintro ⟨_, _, _, _, ⟨prerelease, hprerelease, rfl, rfl⟩, ⟨build, hbuild, rfl, rfl⟩, rfl, rfl⟩
    exact ⟨prerelease, build, hprerelease, hbuild, rfl, rfl⟩
  · rintro ⟨prerelease, build, hprerelease, hbuild, rfl, rfl⟩
    exact ⟨_, _, _, _, ⟨prerelease, hprerelease, rfl, rfl⟩, ⟨build, hbuild, rfl, rfl⟩, rfl, rfl⟩

end Pattern

/-- The groups that are recorded for the parts of a version. The marks are inside of the groups
for the prerelease and the build metadata. -/
def VersionParts.captures (parts : VersionParts) : Captures :=
  (1, parts.major) :: (parts.minor.map (2, ·)).toList ++ (parts.patch.map (3, ·)).toList ++
    (parts.prerelease.map fun s => (4, '-' :: s)).toList ++
      (parts.build.map fun s => (5, '+' :: s)).toList

/-- The pattern matches exactly the texts of the grammar and records their parts. -/
theorem matches_version_iff {s : List Char} {x : Captures} :
    Pattern.version.Matches s x ↔ ∃ parts, IsWritten parts s ∧ x = parts.captures := by
  simp only [Pattern.version, Pattern.numeralThen_iff, Pattern.matches_opt_iff,
    Pattern.identifierTail_iff]
  constructor
  · rintro ⟨major, _, _, hmajor, hrest, rfl, rfl⟩
    rcases hrest with ⟨minor, _, _, hminor, hrest, rfl, rfl⟩ | ⟨rfl, rfl⟩
    · rcases hrest with ⟨patch, _, _, hpatch, ⟨prerelease, build, hprerelease, hbuild, rfl, rfl⟩,
        rfl, rfl⟩ | ⟨rfl, rfl⟩
      · have h := IsWritten.full hmajor hminor hpatch hprerelease hbuild
        exact ⟨_, by simpa using h, by simp [VersionParts.captures]⟩
      · have h := IsWritten.shortMinor hmajor hminor
        exact ⟨_, by simpa using h, by simp [VersionParts.captures]⟩
    · have h := IsWritten.short hmajor
      exact ⟨_, by simpa using h, by simp [VersionParts.captures]⟩
  · rintro ⟨parts, h, rfl⟩
    cases h with
    | short hmajor => exact ⟨_, [], [], hmajor, .inr ⟨rfl, rfl⟩, by simp, rfl⟩
    | shortMinor hmajor hminor =>
        exact ⟨_, _, _, hmajor, .inl ⟨_, [], [], hminor, .inr ⟨rfl, rfl⟩, rfl, rfl⟩, by simp, rfl⟩
    | full hmajor hminor hpatch hprerelease hbuild =>
        exact ⟨_, _, _, hmajor, .inl ⟨_, _, _, hminor,
          .inl ⟨_, _, _, hpatch, ⟨_, _, hprerelease, hbuild, rfl, rfl⟩, rfl, rfl⟩, rfl, rfl⟩,
          by simp, by simp [VersionParts.captures]⟩

/-! ## Reading a version -/

/-- A text is read as a version exactly when it is in the grammar, which is exactly when the
pattern matches it. Then its parts and the groups of the pattern are determined, and the version
that is read gives the parts back. -/
theorem parse?_decomposition (s : List Char) :
    ((Version.parse? s).isSome = true ↔ ∃ parts, IsWritten parts s) ∧
      ((∃ captures, Pattern.version.Matches s captures) ↔ ∃ parts, IsWritten parts s) ∧
      ∀ parts, IsWritten parts s →
        (∀ others, IsWritten others s → others = parts) ∧
        (∀ captures, Pattern.version.Matches s captures ↔ captures = parts.captures) ∧
        ∃ v, Version.parse? s = some v ∧
          v.majorText = 'v' :: parts.major ∧
          v.prereleaseText = behind '-' parts.prerelease ∧
          v.buildText = behind '+' parts.build ∧
          v.canonical.text = 'v' :: parts.major ++ '.' :: parts.minor.getD ['0'] ++
            '.' :: parts.patch.getD ['0'] ++ behind '-' parts.prerelease := by
  refine ⟨?_, ?_, ?_⟩
  · rw [Option.isSome_iff_exists]
    constructor
    · rintro ⟨v, hv⟩
      exact ⟨v.parts, isWritten_iff.mpr ⟨v, hv, rfl⟩⟩
    · rintro ⟨parts, h⟩
      obtain ⟨v, hv, -⟩ := isWritten_iff.mp h
      exact ⟨v, hv⟩
  · simp only [matches_version_iff]
    constructor
    · rintro ⟨_, parts, h, -⟩
      exact ⟨parts, h⟩
    · rintro ⟨parts, h⟩
      exact ⟨parts.captures, parts, h, rfl⟩
  · intro parts h
    have hunique : ∀ others, IsWritten others s → others = parts := by
      intro others hothers
      obtain ⟨v, hv, rfl⟩ := isWritten_iff.mp h
      obtain ⟨w, hw, rfl⟩ := isWritten_iff.mp hothers
      rw [Option.some.inj (hw.symm.trans hv)]
    refine ⟨hunique, ?_, ?_⟩
    · intro captures
      rw [matches_version_iff]
      constructor
      · rintro ⟨others, hothers, rfl⟩
        rw [hunique others hothers]
      · rintro rfl
        exact ⟨parts, h, rfl⟩
    · obtain ⟨v, hv, rfl⟩ := isWritten_iff.mp h
      exact ⟨v, hv, v.majorText_eq, v.prereleaseText_eq, v.buildText_eq, v.text_canonical⟩

/-- Of the dashes in a text only the first one opens the prerelease. -/
theorem parse?_decomposition_dashes :
    let text := "v1.0.20-rc-1.0+0x-y.01".toList
    let parts : VersionParts :=
      ⟨['1'], some ['0'], some ['2', '0'], some "rc-1.0".toList, some "0x-y.01".toList⟩
    IsWritten parts text ∧ (∀ others, IsWritten others text → others = parts) ∧
      ∃ v, Version.parse? text = some v ∧ v.prereleaseText = "-rc-1.0".toList ∧
        v.canonical.text = "v1.0.20-rc-1.0".toList := by
  intro text parts
  have hprerelease : IsDotSeparated IsPrereleaseIdentifier "rc-1.0".toList :=
    ⟨["rc-1".toList, ['0']], by simp, by simp; decide, by decide⟩
  have hbuild : IsDotSeparated IsBuildIdentifier "0x-y.01".toList :=
    ⟨["0x-y".toList, ['0', '1']], by simp, by simp; decide, by decide⟩
  have h : IsWritten parts text :=
    .full (by decide) (by decide) (by decide) (by simpa using hprerelease) (by simpa using hbuild)
  obtain ⟨hunique, -, v, hv, -, hpre, -, hcanonical⟩ := (parse?_decomposition text).2.2 parts h
  exact ⟨h, hunique, v, hv, hpre, hcanonical⟩

end ModuleId
