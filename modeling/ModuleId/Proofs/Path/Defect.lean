import Mathlib
import ModuleId.Proofs.Path.Dialect
import ModuleId.Proofs.Path.Grammar

/-! # The first defect of a path

A path is refused for its first defect. The text as a whole comes first, then its elements from left
to right, and for each element its rules in their order. Which defect that is can be said of the
text itself: an empty element is left to be found only behind a slash at the start, and of the
elements of dots alone only the single dot. -/

namespace ModuleId

open Text

/-! ## Defects -/

/-- What is wrong with an element. A later defect counts only where the earlier ones are absent. -/
inductive Dialect.ElementDefect (d : Dialect) (element : List Char) : PathFault → Prop
  | dot (h : element = ['.']) : ElementDefect d element (.invalidElement ".")
  | leadingDot (hdot : element ≠ ['.']) (h : element.head? = some '.')
      (hstart : ¬ d.MayStartWithDot) : ElementDefect d element .leadingDot
  | trailingDot (hdot : element ≠ ['.']) (hhead : element.head? = some '.' → d.MayStartWithDot)
      (h : element.getLast? = some '.') : ElementDefect d element .trailingDot
  | invalidChar {before c after} (hhead : element.head? = some '.' → d.MayStartWithDot)
      (hlast : element.getLast? ≠ some '.') (h : element = before ++ c :: after)
      (hbefore : ∀ a ∈ before, d.IsAllowed a) (hc : ¬ d.IsAllowed c) :
      ElementDefect d element (.invalidChar c)
  | reservedName (hhead : element.head? = some '.' → d.MayStartWithDot)
      (hlast : element.getLast? ≠ some '.') (hallowed : ∀ c ∈ element, d.IsAllowed c)
      (h : IsDeviceName (shortName element)) :
      ElementDefect d element (.reservedName (String.ofList (shortName element)))

/-- What is wrong with a path first. -/
inductive Dialect.FirstDefect (d : Dialect) (path : List Char) : PathFault → Prop
  | emptyString (h : path = []) : FirstDefect d path .emptyString
  | doubleDot (h : ['.', '.'] <:+: path) : FirstDefect d path .doubleDot
  | doubleSlash (hdots : ¬ ['.', '.'] <:+: path) (h : ['/', '/'] <:+: path) :
      FirstDefect d path .doubleSlash
  | trailingSlash (hdots : ¬ ['.', '.'] <:+: path) (hslashes : ¬ ['/', '/'] <:+: path)
      (h : path.getLast? = some '/') : FirstDefect d path .trailingSlash
  | emptyElement (hdots : ¬ ['.', '.'] <:+: path) (hslashes : ¬ ['/', '/'] <:+: path)
      (hlast : path.getLast? ≠ some '/') (h : path.head? = some '/') :
      FirstDefect d path .emptyElement
  | element {before element after fault} (hne : path ≠ []) (hdots : ¬ ['.', '.'] <:+: path)
      (hslashes : ¬ ['/', '/'] <:+: path) (hlast : path.getLast? ≠ some '/')
      (hhead : path.head? ≠ some '/') (hpath : path.splitOn '/' = before ++ element :: after)
      (hbefore : ∀ other ∈ before, d.IsElement other) (h : d.ElementDefect element fault) :
      FirstDefect d path fault

/-! ## Elements -/

/-- Dots that are not doubled are one dot. -/
theorem all_dots_iff {element : List Char} (hne : element ≠ [])
    (hdots : ¬ ['.', '.'] <:+: element) : element.all (· == '.') = true ↔ element = ['.'] := by
  constructor
  · intro h
    rw [List.all_eq_true] at h
    cases element with
    | nil => contradiction
    | cons a rest =>
        obtain rfl : a = '.' := by simpa using h a List.mem_cons_self
        cases rest with
        | nil => rfl
        | cons b rest =>
            obtain rfl : b = '.' := by simpa using h b (by simp)
            exact (hdots ⟨[], rest, rfl⟩).elim
  · intro h
    rw [h]
    rfl

theorem leadingDot_iff (kind : PathKind) (element : List Char) :
    (element.head? == some '.' && !kind.allowsLeadingDot) = true ↔
      ¬ (element.head? = some '.' → kind.dialect.MayStartWithDot) := by
  rw [← allowsLeadingDot_iff]
  simp

theorem find?_not_allows_eq_none_iff (kind : PathKind) (element : List Char) :
    (element.find? fun c => !kind.allows c) = none ↔ ∀ c ∈ element, kind.dialect.IsAllowed c := by
  simp [List.find?_eq_none, allows_iff]

/-- The search finds the first character that is not allowed. -/
theorem find?_not_allows_eq_some_iff {kind : PathKind} {element : List Char} {c : Char} :
    (element.find? fun c => !kind.allows c) = some c ↔
      ¬ kind.dialect.IsAllowed c ∧ ∃ before after, element = before ++ c :: after ∧
        ∀ a ∈ before, kind.dialect.IsAllowed a := by
  simp [List.find?_eq_some_iff_append, ← allows_iff]

/-- The rules of an element that the tests of the whole text let through are tried in the order of
the defects. -/
theorem elementFault?_eq_some_iff {kind : PathKind} {element : List Char} {fault : PathFault}
    (hne : element ≠ []) (hdots : ¬ ['.', '.'] <:+: element) :
    elementFault? kind element = some fault ↔ kind.dialect.ElementDefect element fault := by
  simp only [elementFault?, ite_eq_iff, List.isEmpty_iff, hne, false_and, not_false_eq_true,
    true_and, false_or, all_dots_iff hne hdots, leadingDot_iff, beq_iff_eq, Option.some.injEq]
  constructor
  · rintro (⟨rfl, rfl⟩ | ⟨hdot, ⟨hhead, rfl⟩ | ⟨hhead, ⟨hlast, rfl⟩ | ⟨hlast, h⟩⟩⟩)
    · exact .dot rfl
    · rw [Classical.not_imp] at hhead
      exact .leadingDot hdot hhead.1 hhead.2
    · exact .trailingDot hdot (not_not.mp hhead) hlast
    · cases hfind : element.find? fun c => !kind.allows c with
      | some c =>
          obtain ⟨hc, before, after, helement, hbefore⟩ := find?_not_allows_eq_some_iff.mp hfind
          obtain rfl : .invalidChar c = fault := by simpa [hfind] using h
          exact .invalidChar (not_not.mp hhead) hlast helement hbefore hc
      | none =>
          have hallowed := (find?_not_allows_eq_none_iff kind element).mp hfind
          simp only [hfind, Option.ite_none_right_eq_some, isReserved_iff, Option.some.injEq] at h
          obtain ⟨hdevice, rfl⟩ := h
          exact .reservedName (not_not.mp hhead) hlast hallowed hdevice
  · intro h
    cases h with
    | dot h => exact .inl ⟨h, by rw [h]⟩
    | leadingDot hdot h hstart =>
        exact .inr ⟨hdot, .inl ⟨fun hhead => hstart (hhead h), rfl⟩⟩
    | trailingDot hdot hhead h =>
        exact .inr ⟨hdot, .inr ⟨not_not.mpr hhead, .inl ⟨h, rfl⟩⟩⟩
    | invalidChar hhead hlast h hbefore hc =>
        have hfind := find?_not_allows_eq_some_iff.mpr ⟨hc, _, _, h, hbefore⟩
        refine .inr ⟨?_, .inr ⟨not_not.mpr hhead, .inr ⟨hlast, by rw [hfind]⟩⟩⟩
        intro hdot
        exact hlast (by rw [hdot]; rfl)
    | reservedName hhead hlast hallowed h =>
        have hfind := (find?_not_allows_eq_none_iff kind element).mpr hallowed
        refine .inr ⟨?_, .inr ⟨not_not.mpr hhead, .inr ⟨hlast, ?_⟩⟩⟩
        · intro hdot
          exact hlast (by rw [hdot]; rfl)
        · simp [hfind, isReserved_iff, h]

/-! ## Paths -/

section Path

variable {kind : PathKind} {path : List Char} {fault : PathFault}

/-- A path that starts with a slash has an empty element first. -/
theorem findSome?_elementFault?_of_head? (h : path.head? = some '/') :
    (path.splitOn '/').findSome? (elementFault? kind) = some .emptyElement := by
  obtain ⟨rest, rfl⟩ := List.head?_eq_some_iff.mp h
  rw [List.splitOn_cons_eq_if_modifyHead]
  rfl

/-- Elements that are not empty are searched from the left for the first defect. -/
theorem findSome?_elementFault?_eq_some_iff (hnil : [] ∉ path.splitOn '/')
    (hdots : ¬ ['.', '.'] <:+: path) :
    (path.splitOn '/').findSome? (elementFault? kind) = some fault ↔
      ∃ before element after, path.splitOn '/' = before ++ element :: after ∧
        kind.dialect.ElementDefect element fault ∧
        ∀ other ∈ before, kind.dialect.IsElement other := by
  rw [doubled_iff_exists_mem_splitOn (by decide : '/' ≠ '.')] at hdots
  have hapart : ∀ element ∈ path.splitOn '/', ¬ ['.', '.'] <:+: element :=
    fun element helement hdoubled => hdots ⟨element, helement, hdoubled⟩
  rw [List.findSome?_eq_some_iff]
  refine exists_congr fun before => exists_congr fun element => exists_congr fun after => ?_
  refine and_congr_right fun hpath => ?_
  rw [hpath, List.forall_mem_append, List.forall_mem_cons] at hapart
  have hne : element ≠ [] := by
    intro h
    exact hnil (by simp [hpath, h])
  apply and_congr (elementFault?_eq_some_iff hne hapart.2.1)
  refine forall₂_congr fun other hother => ?_
  rw [elementFault?_eq_none_iff, dialect_isElement_iff]
  exact (and_iff_right (hapart.1 other hother)).symm

/-- The tests of the whole text leave an empty element only at the start. -/
theorem nil_not_mem_splitOn_slash (hne : path ≠ []) (hslashes : ¬ ['/', '/'] <:+: path)
    (hlast : path.getLast? ≠ some '/') (hhead : path.head? ≠ some '/') :
    [] ∉ path.splitOn '/' := by
  rw [nil_mem_splitOn_iff, not_or, not_or, not_or]
  exact ⟨hne, hhead, hlast, hslashes⟩

theorem firstDefect_of_scanFault? (h : scanFault? kind path = some fault) :
    kind.dialect.FirstDefect path fault := by
  simp only [scanFault?, ite_eq_iff, List.isEmpty_iff, doubled_iff, beq_iff_eq,
    Option.some.injEq] at h
  rcases h with ⟨hnil, rfl⟩ | ⟨hne, ⟨hdots, rfl⟩ | ⟨hdots, ⟨hslashes, rfl⟩ | ⟨hslashes, h⟩⟩⟩
  · exact .emptyString hnil
  · exact .doubleDot hdots
  · exact .doubleSlash hdots hslashes
  · rcases h with ⟨hlast, rfl⟩ | ⟨hlast, h⟩
    · exact .trailingSlash hdots hslashes hlast
    · by_cases hhead : path.head? = some '/'
      · rw [findSome?_elementFault?_of_head? hhead] at h
        obtain rfl := Option.some.inj h
        exact .emptyElement hdots hslashes hlast hhead
      · have hnil := nil_not_mem_splitOn_slash hne hslashes hlast hhead
        obtain ⟨before, element, after, hpath, hdefect, hbefore⟩ :=
          (findSome?_elementFault?_eq_some_iff hnil hdots).mp h
        exact .element hne hdots hslashes hlast hhead hpath hbefore hdefect

theorem Dialect.FirstDefect.scanFault?_eq (h : kind.dialect.FirstDefect path fault) :
    scanFault? kind path = some fault := by
  have hdoubled {c : Char} (h : [c, c] <:+: path) : path ≠ [] := by
    intro hnil
    simp [hnil] at h
  simp only [scanFault?, ite_eq_iff, List.isEmpty_iff, doubled_iff, beq_iff_eq,
    Option.some.injEq]
  cases h with
  | emptyString h => exact .inl ⟨h, rfl⟩
  | doubleDot h => exact .inr ⟨hdoubled h, .inl ⟨h, rfl⟩⟩
  | doubleSlash hdots h => exact .inr ⟨hdoubled h, .inr ⟨hdots, .inl ⟨h, rfl⟩⟩⟩
  | trailingSlash hdots hslashes h =>
      have hne : path ≠ [] := List.ne_nil_of_mem (List.mem_of_getLast? h)
      exact .inr ⟨hne, .inr ⟨hdots, .inr ⟨hslashes, .inl ⟨h, rfl⟩⟩⟩⟩
  | emptyElement hdots hslashes hlast h =>
      have hne : path ≠ [] := List.ne_nil_of_mem (List.mem_of_mem_head? h)
      exact .inr ⟨hne, .inr ⟨hdots, .inr ⟨hslashes, .inr
        ⟨hlast, findSome?_elementFault?_of_head? h⟩⟩⟩⟩
  | element hne hdots hslashes hlast hhead hpath hbefore h =>
      have hnil := nil_not_mem_splitOn_slash hne hslashes hlast hhead
      have hfound := (findSome?_elementFault?_eq_some_iff hnil hdots).mpr
        ⟨_, _, _, hpath, h, hbefore⟩
      exact .inr ⟨hne, .inr ⟨hdots, .inr ⟨hslashes, .inr ⟨hlast, hfound⟩⟩⟩⟩

/-- The scan reports the first defect. -/
theorem scanFault?_eq_some_iff_firstDefect :
    scanFault? kind path = some fault ↔ kind.dialect.FirstDefect path fault :=
  ⟨firstDefect_of_scanFault?, Dialect.FirstDefect.scanFault?_eq⟩

end Path

/-- The checks of import paths and of file paths report the first defect and nothing else. -/
theorem checkPath_eq_error_iff_firstDefect (path : String) (cause : ModuleError) :
    (checkPath .importPath path = .error cause ↔
      ∃ fault, importDialect.FirstDefect path.toList fault ∧
        cause = .malformedPath .importPath path fault) ∧
    (checkPath .filePath path = .error cause ↔
      ∃ fault, fileDialect.FirstDefect path.toList fault ∧
        cause = .malformedPath .filePath path fault) := by
  have hfirst {kind : PathKind} (hkind : kind ≠ .modulePath) :
      checkPath kind path = .error cause ↔
        ∃ fault, kind.dialect.FirstDefect path.toList fault ∧
          cause = .malformedPath kind path fault := by
    simp only [checkPath_eq_error_iff, pathFault?_eq_scanFault? hkind,
      scanFault?_eq_some_iff_firstDefect]
  exact ⟨hfirst (by decide), hfirst (by decide)⟩

end ModuleId
