import Mathlib
import ModuleId.Proofs.Escape.Codec
import ModuleId.Proofs.Path.Grammar

/-! # The grammar of paths

A path is one or more elements with single slashes between them. The check scans the whole text for
doubled dots and slashes before it looks at the elements, and what it accepts is said of the
elements alone. -/

namespace ModuleId

open Text

/-! ## Dialects -/

/-- What sets the elements of one dialect apart from those of another. -/
structure Dialect where
  IsAllowed : Char → Prop
  MayStartWithDot : Prop

/-- Import paths consist of ASCII letters, digits and a few marks. -/
def importDialect : Dialect where
  IsAllowed c := c.isAlphanum = true ∨ c ∈ "+-._~".toList
  MayStartWithDot := False

/-- File paths have more marks, the space, and letters beyond ASCII. -/
def fileDialect : Dialect where
  IsAllowed c := c.isAlphanum = true ∨ c ∈ " !#$%&()+,-.=@[]^_\x7b\x7d~".toList ∨
    128 ≤ c.toNat ∧ isAlphabetic c = true
  MayStartWithDot := True

/-- A name of a device, in any case. -/
def IsDeviceName (s : List Char) : Prop :=
  ∃ name ∈ reservedNames, lowerCase name.toList = lowerCase s

structure Dialect.IsElement (d : Dialect) (element : List Char) : Prop where
  ne_nil : element ≠ []
  allowed : ∀ c ∈ element, d.IsAllowed c
  dots_apart : ¬ ['.', '.'] <:+: element
  last : element.getLast? ≠ some '.'
  head : element.head? = some '.' → d.MayStartWithDot
  not_device : ¬ IsDeviceName (shortName element)

/-- One or more elements with single slashes between them. -/
def Dialect.IsPath (d : Dialect) (path : List Char) : Prop :=
  ∃ elements, elements ≠ [] ∧ (∀ element ∈ elements, d.IsElement element) ∧
    path = ['/'].intercalate elements

/-- The dialect whose elements a kind of path has. -/
def PathKind.dialect : PathKind → Dialect
  | .filePath => fileDialect
  | _ => importDialect

/-! ## Characters and reserved names -/

theorem allows_importPath_iff (c : Char) :
    PathKind.importPath.allows c = true ↔ importDialect.IsAllowed c := by
  have hmarks : importPunctuation = "+-._~".toList := by decide
  simp [PathKind.allows, importDialect, hmarks]

theorem mem_filePunctuation_iff (c : Char) :
    c ∈ filePunctuation ↔ c ∈ " !#$%&()+,-.=@[]^_\x7b\x7d~".toList := by
  have hmarks : " !#$%&()+,-.=@[]^_\x7b\x7d~".toList ⊆ filePunctuation ∧
      filePunctuation ⊆ " !#$%&()+,-.=@[]^_\x7b\x7d~".toList := by decide
  exact ⟨fun h => hmarks.2 h, fun h => hmarks.1 h⟩

theorem allows_filePath_iff (c : Char) :
    PathKind.filePath.allows c = true ↔ fileDialect.IsAllowed c := by
  simp only [fileDialect, ← mem_filePunctuation_iff]
  cases hascii : isAscii c with
  | true =>
      have hlt : ¬ 128 ≤ c.toNat := by simpa [isAscii] using hascii
      simp [PathKind.allows, hascii, hlt]
  | false =>
      have hle : 128 ≤ c.toNat := by simpa [isAscii] using hascii
      have halphanum : ¬ c.isAlphanum = true := by
        intro h
        rw [isAscii_of_isAlphanum h] at hascii
        contradiction
      have hmark : c ∉ filePunctuation := by
        intro h
        have hall : filePunctuation.all isAscii = true := by decide
        rw [List.all_eq_true.mp hall c h] at hascii
        contradiction
      simp [PathKind.allows, hascii, hle, halphanum, hmark]

theorem allows_iff (kind : PathKind) (c : Char) :
    kind.allows c = true ↔ kind.dialect.IsAllowed c := by
  cases kind with
  | modulePath => exact allows_importPath_iff c
  | importPath => exact allows_importPath_iff c
  | filePath => exact allows_filePath_iff c

theorem allowsLeadingDot_iff (kind : PathKind) :
    kind.allowsLeadingDot = true ↔ kind.dialect.MayStartWithDot := by
  cases kind <;> simp [PathKind.allowsLeadingDot, PathKind.dialect, importDialect, fileDialect]

theorem lowerCase_upperCase (s : List Char) : lowerCase (upperCase s) = lowerCase s := by
  simp [lowerCase, upperCase, Function.comp_def, Char.toLower_toUpper_eq_toLower]

theorem upperCase_lowerCase (s : List Char) : upperCase (lowerCase s) = upperCase s := by
  simp [lowerCase, upperCase, Function.comp_def, Char.toUpper_toLower_eq_toUpper]

/-- The reserved names are in upper case, so comparing in upper case leaves no case out. -/
theorem isReserved_iff (short : List Char) : isReserved short = true ↔ IsDeviceName short := by
  have hupper : ∀ name ∈ reservedNames, upperCase name.toList = name.toList := by decide
  rw [isReserved, List.any_eq_true]
  refine exists_congr fun name => and_congr_right fun hname => ?_
  rw [beq_iff_eq]
  constructor
  · intro h
    rw [h, lowerCase_upperCase]
  · intro h
    rw [← hupper name hname, ← upperCase_lowerCase, h, upperCase_lowerCase]

/-! ## Elements and paths -/

/-- The rules of an element and the rule about doubled dots are those of the dialect. -/
theorem dialect_isElement_iff (kind : PathKind) (element : List Char) :
    kind.dialect.IsElement element ↔
      ¬ ['.', '.'] <:+: element ∧ IsElement kind element := by
  constructor
  · intro h
    refine ⟨h.dots_apart, h.ne_nil, ?_, h.last, ?_, ?_⟩
    · intro hhead
      exact (allowsLeadingDot_iff kind).mpr (h.head hhead)
    · intro c hc
      exact (allows_iff kind c).mpr (h.allowed c hc)
    · rw [← Bool.not_eq_true, isReserved_iff]
      exact h.not_device
  · intro h
    obtain ⟨hdots, helement⟩ := h
    refine ⟨helement.ne_nil, ?_, hdots, helement.last, ?_, ?_⟩
    · intro c hc
      exact (allows_iff kind c).mp (helement.allowed c hc)
    · intro hhead
      exact (allowsLeadingDot_iff kind).mp (helement.head hhead)
    · rw [← isReserved_iff, helement.not_reserved]
      exact Bool.false_ne_true

theorem slash_not_allowed (kind : PathKind) : ¬ kind.dialect.IsAllowed '/' := by
  rw [← allows_iff]
  cases kind <;> decide

/-- The scan finds no fault exactly in the paths of the dialect. -/
theorem scanFault?_eq_none_iff_isPath (kind : PathKind) (path : List Char) :
    scanFault? kind path = none ↔ kind.dialect.IsPath path := by
  have hdots : ¬ ['.', '.'] <:+: path ↔ ∀ element ∈ path.splitOn '/', ¬ ['.', '.'] <:+: element := by
    simpa using not_congr (doubled_iff_exists_mem_splitOn (by decide : '/' ≠ '.') path)
  rw [scanFault?_eq_none_iff, hdots]
  constructor
  · intro h
    refine ⟨path.splitOn '/', List.splitOn_ne_nil '/' path, ?_, (List.intercalate_splitOn '/').symm⟩
    intro element helement
    exact (dialect_isElement_iff kind element).mpr ⟨h.1 element helement, h.2 element helement⟩
  · rintro ⟨elements, hne, helements, rfl⟩
    have hslash : ∀ element ∈ elements, '/' ∉ element := by
      intro element helement hmem
      exact slash_not_allowed kind ((helements element helement).allowed '/' hmem)
    rw [List.splitOn_intercalate '/' hslash hne, ← forall₂_and]
    intro element helement
    exact (dialect_isElement_iff kind element).mp (helements element helement)

/-- Import paths and file paths are accepted exactly when they are paths of their dialect. -/
theorem checkPath_eq_ok_iff_isPath (path : String) :
    (checkPath .importPath path = .ok () ↔ importDialect.IsPath path.toList) ∧
      (checkPath .filePath path = .ok () ↔ fileDialect.IsPath path.toList) := by
  refine ⟨?_, ?_⟩
  · rw [checkPath_eq_ok_iff_scanFault? (by decide)]
    exact scanFault?_eq_none_iff_isPath .importPath path.toList
  · rw [checkPath_eq_ok_iff_scanFault? (by decide)]
    exact scanFault?_eq_none_iff_isPath .filePath path.toList

end ModuleId
