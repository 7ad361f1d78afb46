import Mathlib
import ModuleId.Proofs.Escape.Codec
import ModuleId.Proofs.Path.Grammar

/-! # Escaping paths and versions

Escaping and unescaping check their input in different ways. The two still undo each other, on all
texts that either of them accepts. -/

namespace ModuleId

open Text

/-- `encode` gives a form to exactly the texts in `plain`, and `decode` reads exactly these forms,
each as the one text that it is the form of. -/
structure RoundTrip (plain : Set String) (encode decode : String → Except ModuleError String) :
    Prop where
  exists_encode_iff : ∀ s, (∃ form, encode s = .ok form) ↔ s ∈ plain
  decode_eq_ok_iff : ∀ s form, decode form = .ok s ↔ encode s = .ok form
  encode_bind_decode : ∀ s ∈ plain, encode s >>= decode = .ok s
  decode_bind_encode : ∀ form, (∃ s, decode form = .ok s) → decode form >>= encode = .ok form
  encode_injOn : Set.InjOn encode plain
  decode_injOn : Set.InjOn decode {form | ∃ s, decode form = .ok s}

/-- When `decode` is the converse of `encode`, each undoes the other. -/
theorem RoundTrip.of_iff {plain : Set String} {encode decode : String → Except ModuleError String}
    (hplain : ∀ s, (∃ form, encode s = .ok form) ↔ s ∈ plain)
    (hiff : ∀ s form, decode form = .ok s ↔ encode s = .ok form) :
    RoundTrip plain encode decode := by
  refine ⟨hplain, hiff, ?_, ?_, ?_, ?_⟩
  · intro s hs
    obtain ⟨form, hform⟩ := (hplain s).mpr hs
    rw [hform]
    exact (hiff s form).mpr hform
  · intro form h
    obtain ⟨s, hs⟩ := h
    rw [hs]
    exact (hiff s form).mp hs
  · intro s hs t _ heq
    obtain ⟨form, hform⟩ := (hplain s).mpr hs
    have hs' : decode form = .ok s := (hiff s form).mpr hform
    have ht' : decode form = .ok t := (hiff t form).mpr (heq ▸ hform)
    exact Except.ok.inj (hs'.symm.trans ht')
  · intro form h other _ heq
    obtain ⟨s, hs⟩ := h
    have hform : encode s = .ok form := (hiff s form).mp hs
    have hother : encode s = .ok other := (hiff s other).mp (heq ▸ hs)
    exact Except.ok.inj (hform.symm.trans hother)

/-! ## Checked text -/

theorem escapeChecked_eq_ok_iff (s form : String) :
    escapeChecked s = .ok form ↔
      isEscapable s.toList = true ∧ escapeText s.toList = form.toList := by
  unfold escapeChecked
  cases h : isEscapable s.toList with
  | true => simp [String.ext_iff]
  | false => simp

theorem exists_escapeChecked_iff (s : String) :
    (∃ form, escapeChecked s = .ok form) ↔ isEscapable s.toList = true := by
  simp only [escapeChecked_eq_ok_iff, exists_and_left, and_iff_left_iff_imp]
  exact fun _ => ⟨String.ofList (escapeText s.toList), by simp⟩

/-- A text has a form exactly when that form can be read as it. -/
theorem unescapeText?_eq_some_iff_escapeChecked (form s : String) :
    unescapeText? form.toList = some s.toList ↔ escapeChecked s = .ok form :=
  (unescapeText?_eq_some_iff form.toList s.toList).trans (escapeChecked_eq_ok_iff s form).symm

/-! ## Answers -/

/-- Unescaping answers `invalid` for a text that is no escaped form, and any other text as what is
read from it is answered. -/
def answerForm (invalid : ModuleError) (answer : String → Except ModuleError String)
    (form : String) : Except ModuleError String :=
  match unescapeText? form.toList with
  | none => .error invalid
  | some s => answer (String.ofList s)

/-- How a path that is read from a form is answered. -/
def answerPath (form path : String) : Except ModuleError String :=
  match checkPath .modulePath path with
  | .ok () => .ok path
  | .error cause => .error (.rejectedEscapedPath form cause)

/-- How a version that is read from a form is answered. -/
def answerVersion (version : String) : Except ModuleError String :=
  match elementFault? .filePath version.toList with
  | none => .ok version
  | some fault => .error (.rejectedEscapedVersion version fault)

theorem unescapePath_eq_answerForm (form : String) :
    unescapePath form = answerForm (.invalidEscapedPath form) (answerPath form) form :=
  rfl

theorem unescapeVersion_eq_answerForm (form : String) :
    unescapeVersion form = answerForm (.invalidEscapedVersion form) answerVersion form := by
  unfold unescapeVersion answerForm answerVersion
  cases unescapeText? form.toList with
  | none => rfl
  | some s => cases h : elementFault? .filePath s <;> simp [h]

theorem answerForm_of_unescapeText? {invalid : ModuleError}
    {answer : String → Except ModuleError String} {form s : String}
    (h : unescapeText? form.toList = some s.toList) :
    answerForm invalid answer form = answer s := by
  simp [answerForm, h]

theorem answerForm_eq_ok_iff {invalid : ModuleError}
    {answer : String → Except ModuleError String} {form s : String} :
    answerForm invalid answer form = .ok s ↔
      ∃ read : String, unescapeText? form.toList = some read.toList ∧ answer read = .ok s := by
  cases h : unescapeText? form.toList with
  | none => simp [answerForm, h]
  | some text =>
      obtain ⟨read, rfl⟩ : ∃ read : String, text = read.toList := ⟨String.ofList text, by simp⟩
      simp [answerForm_of_unescapeText? h, String.toList_inj]

theorem answerPath_eq_ok_iff {form path s : String} :
    answerPath form path = .ok s ↔ path = s ∧ checkPath .modulePath path = .ok () := by
  unfold answerPath
  cases checkPath .modulePath path <;> simp

theorem answerPath_eq_error_iff {form path : String} {cause : ModuleError} :
    answerPath form path = .error cause ↔
      ∃ inner, checkPath .modulePath path = .error inner ∧
        cause = .rejectedEscapedPath form inner := by
  unfold answerPath
  cases checkPath .modulePath path <;> simp [eq_comm]

theorem answerVersion_eq_ok_iff {version s : String} :
    answerVersion version = .ok s ↔
      version = s ∧ elementFault? .filePath version.toList = none := by
  unfold answerVersion
  cases elementFault? .filePath version.toList <;> simp

theorem answerVersion_eq_error_iff {version : String} {cause : ModuleError} :
    answerVersion version = .error cause ↔
      ∃ fault, elementFault? .filePath version.toList = some fault ∧
        cause = .rejectedEscapedVersion version fault := by
  unfold answerVersion
  cases elementFault? .filePath version.toList <;> simp [eq_comm]

/-! ## Paths -/

theorem ne_bang_and_isAscii_of_allows {c : Char} (h : PathKind.modulePath.allows c = true) :
    c ≠ '!' ∧ isAscii c = true := by
  simp only [PathKind.allows, Bool.or_eq_true] at h
  rcases h with h | h
  · refine ⟨?_, isAscii_of_isAlphanum h⟩
    intro hc
    simp [hc] at h
  · have hmem : c ∈ importPunctuation := by simpa using h
    fin_cases hmem <;> decide

/-- A module path is ASCII text without `!`. -/
theorem isEscapable_of_checkPath {path : String} (h : checkPath .modulePath path = .ok ()) :
    isEscapable path.toList = true := by
  rw [isEscapable_iff]
  intro c hc
  rcases eq_slash_or_allows_of_scanFault?_eq_none (scanFault?_eq_none_of_checkPath h) hc
    with rfl | hallowed
  · decide
  · exact ne_bang_and_isAscii_of_allows hallowed

theorem escapePath_eq_ok_iff (path form : String) :
    escapePath path = .ok form ↔
      checkPath .modulePath path = .ok () ∧ escapeChecked path = .ok form := by
  unfold escapePath
  cases checkPath .modulePath path with
  | ok u => simp [bind, Except.bind]
  | error e => simp [bind, Except.bind]

theorem unescapePath_eq_ok_iff (form path : String) :
    unescapePath form = .ok path ↔
      unescapeText? form.toList = some path.toList ∧ checkPath .modulePath path = .ok () := by
  rw [unescapePath_eq_answerForm, answerForm_eq_ok_iff]
  simp only [answerPath_eq_ok_iff, and_left_comm, exists_eq_left]

theorem exists_escapePath_iff (path : String) :
    (∃ form, escapePath path = .ok form) ↔ checkPath .modulePath path = .ok () := by
  simp only [escapePath_eq_ok_iff, exists_and_left, exists_escapeChecked_iff]
  exact and_iff_left_of_imp isEscapable_of_checkPath

/-- Unescaping undoes escaping on all module paths, and escaping undoes unescaping on all texts
that are read as a module path. -/
theorem roundTrip_escapePath :
    RoundTrip {path | checkPath .modulePath path = .ok ()} escapePath unescapePath := by
  apply RoundTrip.of_iff exists_escapePath_iff
  intro path form
  rw [escapePath_eq_ok_iff, unescapePath_eq_ok_iff, unescapeText?_eq_some_iff_escapeChecked]
  exact and_comm

example : unescapePath "github.com/!azure/x" = .ok "github.com/Azure/x" := by rfl

/-! ## Versions -/

/-- A version is disallowed by the check of its file name or for `!`. -/
theorem escapeVersion_eq_ite (version : String) :
    escapeVersion version =
      if elementFault? .filePath version.toList ≠ none ∨ '!' ∈ version.toList then
        .error (.disallowedVersion version)
      else escapeChecked version :=
  if_congr (by simp [Option.ne_none_iff_isSome]) rfl rfl

theorem escapeVersion_eq_ok_iff (version form : String) :
    escapeVersion version = .ok form ↔
      elementFault? .filePath version.toList = none ∧ escapeChecked version = .ok form := by
  rw [escapeVersion_eq_ite]
  split
  case isTrue hrefused =>
      refine ⟨nofun, ?_⟩
      intro h
      have hescapable := ((escapeChecked_eq_ok_iff version form).mp h.2).1
      have hbang := hrefused.resolve_left (not_not.mpr h.1)
      exact (((isEscapable_iff _).mp hescapable '!' hbang).1 rfl).elim
  case isFalse hkept =>
      have hfault := not_not.mp (not_or.mp hkept).1
      exact ⟨fun h => ⟨hfault, h⟩, And.right⟩

theorem unescapeVersion_eq_ok_iff (form version : String) :
    unescapeVersion form = .ok version ↔
      unescapeText? form.toList = some version.toList ∧
        elementFault? .filePath version.toList = none := by
  rw [unescapeVersion_eq_answerForm, answerForm_eq_ok_iff]
  simp only [answerVersion_eq_ok_iff, and_left_comm, exists_eq_left]

theorem exists_escapeVersion_iff (version : String) :
    (∃ form, escapeVersion version = .ok form) ↔
      elementFault? .filePath version.toList = none ∧ isEscapable version.toList = true := by
  simp only [escapeVersion_eq_ok_iff, exists_and_left, exists_escapeChecked_iff]

/-- Unescaping undoes escaping on all versions that are file names of ASCII characters other than
`!`, and escaping undoes unescaping on all texts that are read as a file name. -/
theorem roundTrip_escapeVersion :
    RoundTrip
      {version | elementFault? .filePath version.toList = none ∧ isEscapable version.toList = true}
      escapeVersion unescapeVersion := by
  apply RoundTrip.of_iff exists_escapeVersion_iff
  intro version form
  rw [escapeVersion_eq_ok_iff, unescapeVersion_eq_ok_iff, unescapeText?_eq_some_iff_escapeChecked]
  exact and_comm

end ModuleId
