import ModuleId.Version.Parse

/-! # Reading versions undoes writing them

The reader cuts a text at `+`, at `-` and at dots. No word of a version holds the separators that
are cut at before the word is reached, so the reader finds the parts that a version was written
from, and a text that is no version is refused. -/

namespace ModuleId

open Text

/-! ## Characters of words -/

theorem isDigit_of_isNumeral {s : List Char} (h : IsNumeral s) : ∀ c ∈ s, c.isDigit = true :=
  List.all_eq_true.mp h.2.1

theorem isIdentifierChar_of_isBuildIdentifier {s : List Char} (h : IsBuildIdentifier s) :
    ∀ c ∈ s, isIdentifierChar c = true :=
  List.all_eq_true.mp h.2

theorem isIdentifierChar_of_isPrereleaseIdentifier {s : List Char}
    (h : IsPrereleaseIdentifier s) : ∀ c ∈ s, isIdentifierChar c = true :=
  isIdentifierChar_of_isBuildIdentifier h.1

theorem isIdentifierChar_of_isDigit {c : Char} (h : c.isDigit = true) :
    isIdentifierChar c = true := by
  simp [isIdentifierChar, Char.isAlphanum, h]

/-- A character outside a class stands in no word over that class. -/
theorem not_mem_of_class {p : Char → Bool} {c : Char} {s : List Char} (hc : p c = false)
    (h : ∀ c ∈ s, p c = true) : c ∉ s := by
  intro hmem
  simp [h c hmem] at hc

theorem dot_not_mem_of_isNumeral {s : List Char} (h : IsNumeral s) : '.' ∉ s :=
  not_mem_of_class (by decide) (isDigit_of_isNumeral h)

theorem dot_not_mem_of_isBuildIdentifier {s : List Char} (h : IsBuildIdentifier s) : '.' ∉ s :=
  not_mem_of_class (by decide) (isIdentifierChar_of_isBuildIdentifier h)

theorem dot_not_mem_of_isPrereleaseIdentifier {s : List Char} (h : IsPrereleaseIdentifier s) :
    '.' ∉ s :=
  dot_not_mem_of_isBuildIdentifier h.1

/-- What holds of all words of a class holds of the words in a list of them. -/
theorem forall_mem_map_val {p q : List Char → Prop} (hpq : ∀ word, p word → q word)
    (words : List {t // p t}) : ∀ word ∈ words.map (·.val), q word := by
  intro word hword
  obtain ⟨w, -, rfl⟩ := List.mem_map.mp hword
  exact hpq w.val w.property

/-! ## Lists of words -/

section Words

variable {p : List Char → Prop} [DecidablePred p]

theorem mapM_word?_eq_some_iff {pieces : List (List Char)} {words : List {t // p t}} :
    pieces.mapM (word? p) = some words ↔ pieces = words.map (·.val) := by
  induction pieces generalizing words with
  | nil => cases words <;> simp
  | cons piece pieces ih =>
      simp only [List.mapM_cons, Option.bind_eq_bind, Option.bind_eq_some_iff,
        word?_eq_some_iff, ih, Option.pure_def, Option.some.injEq]
      constructor
      · rintro ⟨word, rfl, others, rfl, rfl⟩
        rfl
      · intro h
        cases words with
        | nil => simp at h
        | cons word others =>
            obtain ⟨rfl, rfl⟩ := List.cons.inj h
            exact ⟨word, rfl, others, rfl, rfl⟩

/-- The words of a text are the ones that it is written from with dots between them. -/
theorem words?_eq_some_iff (hdot : ∀ word, p word → '.' ∉ word) {s : List Char}
    {words : List {t // p t}} :
    words? p s = some words ↔ words ≠ [] ∧ s = ['.'].intercalate (words.map (·.val)) := by
  rw [words?, mapM_word?_eq_some_iff]
  constructor
  · intro h
    refine ⟨?_, ?_⟩
    · rintro rfl
      exact List.splitOn_ne_nil '.' s h
    · rw [← h, List.intercalate_splitOn]
  · rintro ⟨hne, rfl⟩
    refine List.splitOn_intercalate '.' ?_ (by rwa [Ne, List.map_eq_nil_iff])
    intro word hword
    obtain ⟨t, -, rfl⟩ := List.mem_map.mp hword
    exact hdot t.val t.property

theorem marked_eq_behind (marker : Char) (words : List (List Char)) :
    Version.marked marker words = behind marker (joined words) := by
  cases words <;> rfl

theorem optionalWords?_eq_some_iff (hdot : ∀ word, p word → '.' ∉ word) (marker : Char)
    {s : Option (List Char)} {words : List {t // p t}} :
    optionalWords? p s = some words ↔
      behind marker s = Version.marked marker (words.map (·.val)) := by
  cases s with
  | none => cases words <;> simp [optionalWords?, behind, Version.marked]
  | some s =>
      rw [optionalWords?, words?_eq_some_iff hdot, marked_eq_behind]
      cases words <;> simp [behind, joined]

end Words

/-! ## Whole versions -/

namespace Version

/-- A version is made from its numerals and from the texts of its two lists. -/
theorem ofParts?_eq_some_iff {words : List Numeral} {prerelease build : Option (List Char)}
    {v : Version} :
    ofParts? words prerelease build = some v ↔
      v.numerals = words ∧ behind '-' prerelease = v.prereleaseText ∧
        behind '+' build = v.buildText := by
  have hprerelease : ∀ ids, optionalWords? IsPrereleaseIdentifier prerelease = some ids ↔
      behind '-' prerelease = marked '-' (ids.map (·.val)) := fun _ =>
    optionalWords?_eq_some_iff (fun _ => dot_not_mem_of_isPrereleaseIdentifier) '-'
  have hbuild : ∀ ids, optionalWords? IsBuildIdentifier build = some ids ↔
      behind '+' build = marked '+' (ids.map (·.val)) := fun _ =>
    optionalWords?_eq_some_iff (fun _ => dot_not_mem_of_isBuildIdentifier) '+'
  constructor
  · intro h
    unfold ofParts? at h
    split at h
    case h_1 major =>
        obtain rfl : short major = v := by simpa using h
        exact ⟨rfl, rfl, rfl⟩
    case h_2 major minor =>
        obtain rfl : shortMinor major minor = v := by simpa using h
        exact ⟨rfl, rfl, rfl⟩
    case h_3 major minor patch =>
        simp only [Option.bind_eq_bind, Option.bind_eq_some_iff, Option.pure_def,
          Option.some.injEq] at h
        obtain ⟨prereleaseIds, hprereleaseIds, buildIds, hbuildIds, rfl⟩ := h
        exact ⟨rfl, (hprerelease _).mp hprereleaseIds, (hbuild _).mp hbuildIds⟩
    case h_4 => simp at h
  · rintro ⟨rfl, hp, hb⟩
    cases v with
    | short major =>
        obtain rfl : prerelease = none := behind_eq_nil_iff.mp hp
        obtain rfl : build = none := behind_eq_nil_iff.mp hb
        rfl
    | shortMinor major minor =>
        obtain rfl : prerelease = none := behind_eq_nil_iff.mp hp
        obtain rfl : build = none := behind_eq_nil_iff.mp hb
        rfl
    | full major minor patch prereleaseIds buildIds =>
        have hprereleaseIds := (hprerelease prereleaseIds).mpr hp
        have hbuildIds := (hbuild buildIds).mpr hb
        simp [numerals, ofParts?, hprereleaseIds, hbuildIds]

/-- The numerals with dots between them. -/
def coreText (v : Version) : List Char :=
  ['.'].intercalate (v.numerals.map (·.val))

theorem text_eq (v : Version) :
    v.text = 'v' :: (v.coreText ++ v.prereleaseText ++ v.buildText) :=
  rfl

theorem numerals_ne_nil (v : Version) : v.numerals ≠ [] := by
  cases v <;> simp [numerals]

theorem mem_coreText {v : Version} {c : Char} (h : c ∈ v.coreText) :
    c = '.' ∨ c.isDigit = true := by
  rcases eq_dot_or_mem_of_mem_intercalate h with hdot | ⟨word, hword, hc⟩
  · exact .inl hdot
  · exact .inr (forall_mem_map_val (fun _ => isDigit_of_isNumeral) v.numerals word hword c hc)

theorem mem_marked {marker c : Char} {words : List (List Char)} (h : c ∈ marked marker words) :
    c = marker ∨ c = '.' ∨ ∃ word ∈ words, c ∈ word := by
  cases words with
  | nil => simp [marked] at h
  | cons word words =>
      rcases List.mem_cons.mp h with hmarker | h
      · exact .inl hmarker
      · exact .inr (eq_dot_or_mem_of_mem_intercalate h)

theorem mem_prereleaseText {v : Version} {c : Char} (h : c ∈ v.prereleaseText) :
    c = '.' ∨ isIdentifierChar c = true := by
  rcases mem_marked h with rfl | hdot | ⟨word, hword, hc⟩
  · exact .inr (by decide)
  · exact .inl hdot
  · exact .inr (forall_mem_map_val (fun _ => isIdentifierChar_of_isPrereleaseIdentifier)
      v.prerelease word hword c hc)

theorem mem_buildText {v : Version} {c : Char} (h : c ∈ v.buildText) :
    c = '+' ∨ c = '.' ∨ isIdentifierChar c = true := by
  rcases mem_marked h with hmarker | hdot | ⟨word, hword, hc⟩
  · exact .inl hmarker
  · exact .inr (.inl hdot)
  · exact .inr (.inr (forall_mem_map_val (fun _ => isIdentifierChar_of_isBuildIdentifier)
      v.build word hword c hc))

theorem dash_not_mem_coreText (v : Version) : '-' ∉ v.coreText :=
  fun h => absurd (mem_coreText h) (by decide)

theorem plus_not_mem_coreText (v : Version) : '+' ∉ v.coreText :=
  fun h => absurd (mem_coreText h) (by decide)

theorem plus_not_mem_prereleaseText (v : Version) : '+' ∉ v.prereleaseText :=
  fun h => absurd (mem_prereleaseText h) (by decide)

/-- No part before the build metadata holds a `+`, so the first one opens the build metadata. -/
theorem cut_plus (v : Version) :
    cut '+' (v.coreText ++ v.prereleaseText ++ v.buildText) =
      (v.coreText ++ v.prereleaseText, joined (v.build.map (·.val))) := by
  refine cut_eq_iff.mpr ⟨?_, by rw [buildText, marked_eq_behind]⟩
  rw [List.mem_append, not_or]
  exact ⟨plus_not_mem_coreText v, plus_not_mem_prereleaseText v⟩

theorem cut_dash (v : Version) :
    cut '-' (v.coreText ++ v.prereleaseText) =
      (v.coreText, joined (v.prerelease.map (·.val))) :=
  cut_eq_iff.mpr ⟨dash_not_mem_coreText v, by rw [prereleaseText, marked_eq_behind]⟩

/-- A text is read as a version exactly when it is the text of that version. -/
theorem parse?_eq_some_iff {s : List Char} {v : Version} : parse? s = some v ↔ s = v.text := by
  constructor
  · intro h
    unfold parse? at h
    split at h
    case h_1 t =>
        obtain ⟨release, build, hrelease⟩ : ∃ release build, cut '+' t = (release, build) :=
          ⟨_, _, rfl⟩
        obtain ⟨core, prerelease, hcore⟩ :
            ∃ core prerelease, cut '-' release = (core, prerelease) :=
          ⟨_, _, rfl⟩
        simp only [hrelease, hcore, Option.bind_eq_some_iff, ofParts?_eq_some_iff,
          words?_eq_some_iff fun _ => dot_not_mem_of_isNumeral] at h
        obtain ⟨words, ⟨-, hwords⟩, hnumerals, hp, hb⟩ := h
        obtain ⟨-, rfl⟩ := cut_eq_iff.mp hrelease
        obtain ⟨-, rfl⟩ := cut_eq_iff.mp hcore
        rw [text_eq, coreText, hnumerals, ← hwords, hp, hb]
    case h_2 => simp at h
  · rintro rfl
    have hwords : words? IsNumeral v.coreText = some v.numerals :=
      (words?_eq_some_iff fun _ => dot_not_mem_of_isNumeral).mpr ⟨numerals_ne_nil v, rfl⟩
    have hparts : ofParts? v.numerals _ _ = some v :=
      ofParts?_eq_some_iff.mpr
        ⟨rfl, (marked_eq_behind '-' _).symm, (marked_eq_behind '+' _).symm⟩
    simp only [text_eq, parse?, v.cut_plus, v.cut_dash, hwords, Option.bind_some, hparts]

theorem parse?_text (v : Version) : parse? v.text = some v :=
  parse?_eq_some_iff.mpr rfl

/-- Versions that are written alike are equal. -/
theorem text_injective : ∀ v w : Version, v.text = w.text → v = w := by
  intro v w h
  exact Option.some.inj ((parse?_text v).symm.trans (h ▸ parse?_text w))

end Version

end ModuleId
