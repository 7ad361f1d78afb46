import Mathlib
import ModuleId.Proofs.Escape.Shape
import ModuleId.Proofs.Path.Grammar

/-! # The kinds of path compared

Module paths are import paths and import paths are file paths. Module paths and import paths are
scanned alike, so the two checks report the same fault of a text or of its elements, and only the
rules for the host and for the suffix set them apart. -/

namespace ModuleId

open Text

/-! ## Faults -/

/-- A check refuses a path for a fault. -/
def FailsWith (kind : PathKind) (path : String) (fault : PathFault) : Prop :=
  ∃ cause, checkPath kind path = .error cause ∧ cause.fault? = some fault

theorem failsWith_iff {kind : PathKind} {path : String} {fault : PathFault} :
    FailsWith kind path fault ↔ pathFault? kind path.toList = some fault := by
  constructor
  · rintro ⟨cause, hcause, hfault⟩
    obtain ⟨found, hfound, rfl⟩ := checkPath_eq_error_iff.mp hcause
    rw [hfound]
    exact hfault
  · intro h
    exact ⟨_, checkPath_eq_error_iff.mpr ⟨fault, h, rfl⟩, rfl⟩

theorem exists_failsWith {kind : PathKind} {path : String} (h : checkPath kind path ≠ .ok ()) :
    ∃ fault, FailsWith kind path fault := by
  rw [Ne, checkPath_eq_ok_iff] at h
  obtain ⟨fault, hfault⟩ := Option.ne_none_iff_exists'.mp h
  exact ⟨fault, failsWith_iff.mpr hfault⟩

/-- The faults of a text as a whole and of its elements. -/
def PathFault.IsGeneric : PathFault → Prop
  | .emptyString | .doubleDot | .doubleSlash | .trailingSlash | .emptyElement | .invalidElement _
  | .leadingDot | .trailingDot | .invalidChar _ | .reservedName _ => True
  | _ => False

/-- The faults of the host and of the suffix of a module path. -/
def PathFault.IsOfModulePath : PathFault → Prop
  | .missingDotInFirstElement | .leadingDash | .invalidCharInFirstElement _
  | .invalidVersionSuffix => True
  | _ => False

/-- A list of rules reports only faults of a class when its first rule does and the others do. -/
theorem forall_mem_ite_some {α : Type} {p : Prop} [Decidable p] {a : α} {o : Option α}
    {q : α → Prop} (ha : q a) (ho : ∀ b ∈ o, q b) : ∀ b ∈ if p then some a else o, q b := by
  split
  · simpa using ha
  · exact ho

theorem isGeneric_of_mem_elementFault? (kind : PathKind) (element : List Char) :
    ∀ fault ∈ elementFault? kind element, fault.IsGeneric := by
  refine forall_mem_ite_some trivial (forall_mem_ite_some trivial
    (forall_mem_ite_some trivial (forall_mem_ite_some trivial ?_)))
  cases element.find? fun c => !kind.allows c with
  | some c => simp [PathFault.IsGeneric]
  | none => exact forall_mem_ite_some trivial (by simp)

theorem isGeneric_of_mem_scanFault? (kind : PathKind) (path : List Char) :
    ∀ fault ∈ scanFault? kind path, fault.IsGeneric := by
  refine forall_mem_ite_some trivial (forall_mem_ite_some trivial
    (forall_mem_ite_some trivial (forall_mem_ite_some trivial ?_)))
  intro fault hfault
  obtain ⟨element, -, helement⟩ := List.exists_of_findSome?_eq_some hfault
  exact isGeneric_of_mem_elementFault? kind element fault helement

/-- A host that is not empty has no fault but those of module paths. -/
theorem isOfModulePath_of_mem_hostFault? {host : List Char} (h : host ≠ []) :
    ∀ fault ∈ hostFault? host, fault.IsOfModulePath := by
  have hne : host.isEmpty = false := by simpa using h
  simp only [hostFault?, hne, Bool.false_eq_true, if_false]
  refine forall_mem_ite_some trivial (forall_mem_ite_some trivial ?_)
  intro fault hfault
  obtain ⟨c, -, rfl⟩ := Option.map_eq_some_iff.mp hfault
  trivial

theorem isOfModulePath_of_mem_suffixFault? (path : List Char) :
    ∀ fault ∈ suffixFault? path, fault.IsOfModulePath := by
  unfold suffixFault?
  exact forall_mem_ite_some trivial (by simp)

theorem PathFault.IsOfModulePath.not_isGeneric :
    ∀ {fault : PathFault}, fault.IsOfModulePath → ¬ fault.IsGeneric
  | .missingDotInFirstElement, _, hgeneric => hgeneric
  | .leadingDash, _, hgeneric => hgeneric
  | .invalidCharInFirstElement _, _, hgeneric => hgeneric
  | .invalidVersionSuffix, _, hgeneric => hgeneric

/-! ## Module paths and import paths -/

/-- Module paths are scanned like import paths. -/
theorem scanFault?_modulePath (path : List Char) :
    scanFault? .modulePath path = scanFault? .importPath path :=
  rfl

theorem host_ne_nil_of_scanFault? {kind : PathKind} {path : List Char}
    (h : scanFault? kind path = none) : host path ≠ [] := by
  obtain ⟨-, helements⟩ := (scanFault?_eq_none_iff kind path).mp h
  have hnil : [] ∉ path.splitOn '/' := fun hmem => (helements [] hmem).ne_nil rfl
  cases path with
  | nil => simp at hnil
  | cons c rest =>
      by_cases hc : c = '/'
      · subst hc
        simp [List.splitOn_cons_eq_if_modifyHead] at hnil
      · simp [host, hc]

/-- A module path breaks a rule of the scan, or else a rule of its own. -/
theorem pathFault?_modulePath_cases {path : List Char} {fault : PathFault}
    (h : pathFault? .modulePath path = some fault) :
    scanFault? .importPath path = some fault ∨
      scanFault? .importPath path = none ∧ fault.IsOfModulePath := by
  rw [pathFault?, scanFault?_modulePath] at h
  rcases Option.or_eq_some_iff.mp h with hscan | ⟨hscan, hown⟩
  · exact .inl hscan
  · refine .inr ⟨hscan, ?_⟩
    rcases Option.or_eq_some_iff.mp hown with hhost | ⟨-, hsuffix⟩
    · exact isOfModulePath_of_mem_hostFault? (host_ne_nil_of_scanFault? hscan) fault hhost
    · exact isOfModulePath_of_mem_suffixFault? path fault hsuffix

/-- A path that is scanned without a fault, and whose host has none, is a module path unless its
suffix is malformed. -/
theorem checkPath_or_failsWith_invalidVersionSuffix {path : String}
    (hscan : scanFault? .modulePath path.toList = none)
    (hhost : hostFault? (host path.toList) = none) :
    checkPath .modulePath path = .ok () ∨ FailsWith .modulePath path .invalidVersionSuffix := by
  have hfault : pathFault? .modulePath path.toList = suffixFault? path.toList := by
    rw [pathFault?, hscan, hhost, Option.none_or, Option.none_or]
  rw [checkPath_eq_ok_iff, failsWith_iff, hfault, suffixFault?]
  split
  · exact .inr rfl
  · exact .inl rfl

theorem failsWith_importPath_iff {path : String} {fault : PathFault} :
    FailsWith .importPath path fault ↔ scanFault? .importPath path.toList = some fault := by
  rw [failsWith_iff, pathFault?_eq_scanFault? (by decide)]

theorem failsWith_filePath_iff {path : String} {fault : PathFault} :
    FailsWith .filePath path fault ↔ scanFault? .filePath path.toList = some fault := by
  rw [failsWith_iff, pathFault?_eq_scanFault? (by decide)]

/-- An import path fails for the generic faults of a module path. -/
theorem failsWith_importPath_iff_modulePath {path : String} {fault : PathFault} :
    FailsWith .importPath path fault ↔
      FailsWith .modulePath path fault ∧ fault.IsGeneric := by
  rw [failsWith_importPath_iff, failsWith_iff]
  constructor
  · intro h
    refine ⟨?_, isGeneric_of_mem_scanFault? .importPath path.toList fault h⟩
    simp [pathFault?, scanFault?_modulePath, h]
  · rintro ⟨hfault, hgeneric⟩
    rcases pathFault?_modulePath_cases hfault with hscan | ⟨-, hown⟩
    · exact hscan
    · exact (hown.not_isGeneric hgeneric).elim

/-- Slashes at the start of a path are reported as an empty element. -/
theorem not_failsWith_leadingSlash (kind : PathKind) (path : String) :
    ¬ FailsWith kind path .leadingSlash := by
  have hscan (kind : PathKind) : scanFault? kind path.toList ≠ some .leadingSlash :=
    isGeneric_of_mem_scanFault? kind path.toList .leadingSlash
  intro h
  cases kind with
  | modulePath =>
      rcases pathFault?_modulePath_cases (failsWith_iff.mp h) with hfault | ⟨-, hown⟩
      · exact hscan .importPath hfault
      · exact hown
  | importPath => exact hscan .importPath (failsWith_importPath_iff.mp h)
  | filePath => exact hscan .filePath (failsWith_filePath_iff.mp h)

/-! ## The chain -/

/-- The paths of a kind. -/
def accepted (kind : PathKind) : Set String :=
  {path | checkPath kind path = .ok ()}

instance (kind : PathKind) : DecidablePred (· ∈ accepted kind) := fun path =>
  inferInstanceAs (Decidable (checkPath kind path = .ok ()))

theorem mem_accepted_importPath_of_modulePath {path : String} (h : path ∈ accepted .modulePath) :
    path ∈ accepted .importPath := by
  have hscan := scanFault?_eq_none_of_checkPath h
  exact (checkPath_eq_ok_iff_scanFault? (by decide) path).mpr hscan

/-- The elements of import paths are elements of file paths. -/
theorem mem_accepted_filePath_of_importPath {path : String} (h : path ∈ accepted .importPath) :
    path ∈ accepted .filePath := by
  have hscan := scanFault?_eq_none_of_checkPath h
  rw [scanFault?_eq_none_iff] at hscan
  obtain ⟨hdots, helements⟩ := hscan
  refine (checkPath_eq_ok_iff_scanFault? (by decide) path).mpr
    ((scanFault?_eq_none_iff .filePath path.toList).mpr ⟨hdots, ?_⟩)
  intro element helement
  have hrules := helements element helement
  exact ⟨hrules.ne_nil, fun _ => rfl, hrules.last,
    fun c hc => allows_filePath_of_allows (hrules.allowed c hc), hrules.not_reserved⟩

/-- Module paths are import paths and import paths are file paths, and not the other way round.
Import paths fail for the generic faults of module paths, and a path that is one but not the other
has a fault that only module paths have. -/
theorem accepted_chain :
    accepted .modulePath ⊂ accepted .importPath ∧
      accepted .importPath ⊂ accepted .filePath ∧
      (∀ path fault, FailsWith .importPath path fault ↔
        FailsWith .modulePath path fault ∧ fault.IsGeneric) ∧
      (∀ path ∈ accepted .importPath \ accepted .modulePath,
        ∃ fault, FailsWith .modulePath path fault ∧ fault.IsOfModulePath) ∧
      ∀ kind path, ¬ FailsWith kind path .leadingSlash := by
  refine ⟨?_, ?_, fun path fault => failsWith_importPath_iff_modulePath, ?_,
    not_failsWith_leadingSlash⟩
  · refine ⟨fun path => mem_accepted_importPath_of_modulePath, fun hsubset => ?_⟩
    have himport : "x" ∈ accepted .importPath := by decide +kernel
    exact absurd (hsubset himport) (by decide +kernel)
  · refine ⟨fun path => mem_accepted_filePath_of_importPath, fun hsubset => ?_⟩
    have hfile : ".x" ∈ accepted .filePath := by decide +kernel
    exact absurd (hsubset hfile) (by decide +kernel)
  · intro path hpath
    obtain ⟨himport, hmodule⟩ := hpath
    obtain ⟨fault, hfault⟩ := exists_failsWith hmodule
    refine ⟨fault, hfault, ?_⟩
    rcases pathFault?_modulePath_cases (failsWith_iff.mp hfault) with hscan | ⟨-, hown⟩
    · rw [scanFault?_eq_none_of_checkPath himport] at hscan
      contradiction
    · exact hown

/-- An import path that is no module path for its suffix. -/
theorem accepted_chain_pkg :
    "example.com/pkg/v1" ∈ accepted .importPath \ accepted .modulePath ∧
      ∃ fault, FailsWith .modulePath "example.com/pkg/v1" fault ∧ fault.IsOfModulePath := by
  have hpath : "example.com/pkg/v1" ∈ accepted .importPath \ accepted .modulePath :=
    ⟨by decide +kernel, by decide +kernel⟩
  exact ⟨hpath, accepted_chain.2.2.2.1 _ hpath⟩

end ModuleId
