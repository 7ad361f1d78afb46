import Mathlib
import ModuleId.Proofs.Path.Kinds
import ModuleId.Proofs.Path.Major

/-! # The stem of a module path

What is left of a module path without its suffix is an import path below the same host. A suffix
behind a slash takes whole elements away. One behind a dot is cut out of the last element, of which
something is left because elements do not begin with a dot. -/

namespace ModuleId

open Text

/-! ## Elements cut at a dot -/

theorem shortName_append_dot (s t : List Char) : shortName (s ++ '.' :: t) = shortName s :=
  cut_append_fst '.' s t

section CutAtDot

variable {kind : PathKind} (hkind : kind.allowsLeadingDot = false) {s t : List Char}

include hkind

/-- What stands before a dot of an element is an element too, with the same short name. -/
theorem IsElement.of_append_dot (hdots : ¬ ['.', '.'] <:+: s ++ '.' :: t)
    (h : IsElement kind (s ++ '.' :: t)) : IsElement kind s where
  ne_nil := by
    intro hnil
    have hleading := h.head (by rw [hnil]; rfl)
    rw [hkind] at hleading
    contradiction
  head := by
    intro hhead
    apply h.head
    rw [List.head?_append, hhead]
    rfl
  last := by
    -- A dot at the end would stand before the dot of the cut.
    intro hlast
    apply hdots
    exact (doubled_append_iff '.' s ('.' :: t)).mpr (.inr (.inr ⟨hlast, rfl⟩))
  allowed := by
    intro c hc
    exact h.allowed c (List.mem_append_left _ hc)
  not_reserved := by
    rw [← shortName_append_dot s t]
    exact h.not_reserved

theorem scanFault?_element_of_append_dot (hs : '/' ∉ s) (ht : '/' ∉ t)
    (h : scanFault? kind (s ++ '.' :: t) = none) : scanFault? kind s = none := by
  have hslash : '/' ∉ s ++ '.' :: t := by simp [hs, ht]
  rw [scanFault?_eq_none_iff, List.splitOn_eq_singleton hslash] at h
  obtain ⟨hdots, helement⟩ := h
  apply scanFault?_of_isElement _ hs
  · intro hdoubled
    exact hdots (hdoubled.trans (List.prefix_append s _).isInfix)
  · exact IsElement.of_append_dot hkind hdots (helement _ (List.mem_singleton_self _))

/-- A scanned path can be cut at a dot of its last element. -/
theorem scanFault?_of_append_dot (ht : '/' ∉ t) (h : scanFault? kind (s ++ '.' :: t) = none) :
    scanFault? kind s = none := by
  by_cases hs : '/' ∈ s
  · obtain ⟨before, last, rfl, hlast⟩ := exists_append_last hs
    rw [List.append_assoc, List.cons_append, scanFault?_append_slash_iff] at h
    rw [scanFault?_append_slash_iff]
    exact ⟨h.1, scanFault?_element_of_append_dot hkind hlast ht h.2⟩
  · exact scanFault?_element_of_append_dot hkind hs ht h

end CutAtDot

/-! ## Stems -/

section Stem

variable {path stem suffix : List Char} (h : cutMajor? path = some (stem, suffix))

include h

/-- What is cut off begins with a slash, or with a dot of the last element of a path that goes on
behind its host. -/
theorem stem_cases :
    path = stem ∨ (∃ rest, path = stem ++ '/' :: rest) ∨
      isDotted path = true ∧ isDotted stem = true ∧
        ∃ rest, '/' ∉ rest ∧ path = stem ++ '.' :: rest := by
  unfold cutMajor? at h
  split at h
  case isTrue =>
      right; right
      have hslash := slash_not_mem_of_cutDotted? h
      have hstem := isDotted_of_cutDotted? h
      obtain ⟨hdotted, rfl, hsuffix⟩ := suffix_of_cutDotted? h
      have hhead : suffix.head? = some '.' := by
        rcases hsuffix with rfl | hnames
        · rfl
        · exact hnames.1
      obtain ⟨rest, rfl⟩ := List.head?_eq_some_iff.mp hhead
      exact ⟨hdotted, hstem, rest, fun hmem => hslash (List.mem_cons_of_mem _ hmem), rfl⟩
  case isFalse =>
      obtain ⟨rfl, rfl | ⟨number, -, rfl⟩⟩ := suffix_of_cutSlashed? h
      · exact .inl (List.append_nil stem)
      · exact .inr (.inl ⟨_, rfl⟩)

theorem host_stem : host stem = host path := by
  rcases stem_cases h with rfl | ⟨rest, rfl⟩ | ⟨hpath, hstem, -⟩
  · rfl
  · exact (host_append_slash stem rest).symm
  · rw [(isDotted_iff.mp hpath).1, (isDotted_iff.mp hstem).1]

theorem scanFault?_stem (hscan : scanFault? .modulePath path = none) :
    scanFault? .modulePath stem = none := by
  rcases stem_cases h with rfl | ⟨rest, rfl⟩ | ⟨-, -, rest, hrest, rfl⟩
  · exact hscan
  · exact ((scanFault?_append_slash_iff _ _ _).mp hscan).1
  · exact scanFault?_of_append_dot rfl hrest hscan

end Stem

/-- The stem of a module path is an import path with the same first element, in whatever manner the
path is split. As a module path it is accepted, unless it ends in a malformed suffix itself. -/
theorem splitMajor?_stem {path : String} {split : MajorSplit}
    (hpath : checkPath .modulePath path = .ok ()) (hsplit : splitMajor? path = some split) :
    split.stem ≠ "" ∧ host split.stem.toList = host path.toList ∧
      checkPath .importPath split.stem = .ok () ∧
      (checkPath .modulePath split.stem = .ok () ∨
        FailsWith .modulePath split.stem .invalidVersionSuffix) := by
  rw [splitMajor?_eq_some_iff] at hsplit
  obtain ⟨hscan, hhost, -⟩ := (checkPath_modulePath_eq_ok_iff path).mp hpath
  have hstem := scanFault?_stem hsplit hscan
  have himport : checkPath .importPath split.stem = .ok () :=
    (checkPath_eq_ok_iff_scanFault? (by decide) split.stem).mpr hstem
  refine ⟨ne_empty_of_checkPath himport, host_stem hsplit, himport, ?_⟩
  apply checkPath_or_failsWith_invalidVersionSuffix hstem
  rw [host_stem hsplit]
  exact hhost

/-- Both manners of splitting: the stem of a dotted path needs a suffix to be a module path, and the
stem of another path can end in a suffix that is malformed. -/
theorem splitMajor?_stem_yaml :
    checkPath .modulePath "gopkg.in/yaml.v2-unstable" = .ok () ∧
      splitMajor? "gopkg.in/yaml.v2-unstable" = some ⟨"gopkg.in/yaml", ".v2-unstable"⟩ ∧
      checkPath .importPath "gopkg.in/yaml" = .ok () ∧
      FailsWith .modulePath "gopkg.in/yaml" .invalidVersionSuffix ∧
      checkPath .modulePath "example.com/v1/v2" = .ok () ∧
      splitMajor? "example.com/v1/v2" = some ⟨"example.com/v1", "/v2"⟩ ∧
      checkPath .importPath "example.com/v1" = .ok () ∧
      FailsWith .modulePath "example.com/v1" .invalidVersionSuffix := by
  have hdotted : checkPath .modulePath "gopkg.in/yaml.v2-unstable" = .ok () := by decide +kernel
  have hdottedSplit : splitMajor? "gopkg.in/yaml.v2-unstable" =
      some ⟨"gopkg.in/yaml", ".v2-unstable"⟩ := by decide +kernel
  have hslashed : checkPath .modulePath "example.com/v1/v2" = .ok () := by decide +kernel
  have hslashedSplit : splitMajor? "example.com/v1/v2" = some ⟨"example.com/v1", "/v2"⟩ := by
    decide +kernel
  obtain ⟨-, -, himport, hmodule⟩ := splitMajor?_stem hdotted hdottedSplit
  obtain ⟨-, -, himport', hmodule'⟩ := splitMajor?_stem hslashed hslashedSplit
  exact ⟨hdotted, hdottedSplit, himport, hmodule.resolve_left (by decide +kernel), hslashed,
    hslashedSplit, himport', hmodule'.resolve_left (by decide +kernel)⟩

end ModuleId
