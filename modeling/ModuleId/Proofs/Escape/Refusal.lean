import Mathlib
import ModuleId.Proofs.Escape.RoundTrip
import ModuleId.Proofs.Version.FileName

/-! # What escaping and unescaping refuse

Unescaping refuses a text for what it is when it is the escaped form of nothing, and otherwise for
what is wrong with the one text that it is the form of. Escaping refuses what the checks refuse, and
of versions also those that have no escaped form. -/

namespace ModuleId

open Text

/-! ## Escaped forms -/

/-- `form` is the escaped form of `s`, an ASCII text without `!`. -/
structure IsEscapedForm (s form : String) : Prop where
  plain : ∀ c ∈ s.toList, c ≠ '!' ∧ isAscii c = true
  form_eq : form.toList = escapeText s.toList

theorem unescapeText?_eq_some_iff_isEscapedForm {s form : String} :
    unescapeText? form.toList = some s.toList ↔ IsEscapedForm s form := by
  rw [unescapeText?_eq_some_iff, isEscapable_iff, eq_comm]
  exact ⟨fun h => ⟨h.1, h.2⟩, fun h => ⟨h.plain, h.form_eq⟩⟩

/-- No text is the escaped form of two texts. -/
theorem IsEscapedForm.unique {s t form : String} (hs : IsEscapedForm s form)
    (ht : IsEscapedForm t form) : s = t := by
  have hs' := unescapeText?_eq_some_iff_isEscapedForm.mpr hs
  have ht' := unescapeText?_eq_some_iff_isEscapedForm.mpr ht
  exact String.toList_inj.mp (Option.some.inj (hs'.symm.trans ht'))

/-- A text that cannot be read is the escaped form of nothing. -/
theorem unescapeText?_eq_none_iff {form : String} :
    unescapeText? form.toList = none ↔ ¬ ∃ s, IsEscapedForm s form := by
  simp only [← unescapeText?_eq_some_iff_isEscapedForm]
  cases unescapeText? form.toList with
  | none => simp
  | some s => simpa using ⟨String.ofList s, by simp⟩

/-! ## Unescaping -/

section AnswerForm

variable {invalid : ModuleError} {answer : String → Except ModuleError String} {s form : String}

theorem answerForm_of_isEscapedForm (h : IsEscapedForm s form) :
    answerForm invalid answer form = answer s :=
  answerForm_of_unescapeText? (unescapeText?_eq_some_iff_isEscapedForm.mpr h)

theorem answerForm_eq_invalid_iff (hanswer : ∀ s, answer s ≠ .error invalid) :
    answerForm invalid answer form = .error invalid ↔ ¬ ∃ s, IsEscapedForm s form := by
  constructor
  · intro hinvalid h
    obtain ⟨s, hs⟩ := h
    rw [answerForm_of_isEscapedForm hs] at hinvalid
    exact hanswer s hinvalid
  · intro h
    rw [answerForm, unescapeText?_eq_none_iff.mpr h]

theorem answerForm_eq_error {cause : ModuleError} (h : answerForm invalid answer form = .error cause) :
    cause = invalid ∨ ∃ s, answer s = .error cause := by
  unfold answerForm at h
  split at h
  · exact .inl (Except.error.inj h).symm
  · exact .inr ⟨_, h⟩

end AnswerForm

theorem unescapePath_eq_invalid_iff (form : String) :
    unescapePath form = .error (.invalidEscapedPath form) ↔ ¬ ∃ s, IsEscapedForm s form := by
  rw [unescapePath_eq_answerForm]
  apply answerForm_eq_invalid_iff
  intro s
  simp [answerPath_eq_error_iff]

theorem unescapeVersion_eq_invalid_iff (form : String) :
    unescapeVersion form = .error (.invalidEscapedVersion form) ↔ ¬ ∃ s, IsEscapedForm s form := by
  rw [unescapeVersion_eq_answerForm]
  apply answerForm_eq_invalid_iff
  intro s
  simp [answerVersion_eq_error_iff]

/-- A path is refused for a fault, which the refusal of its escaped form passes on. -/
theorem fault?_isSome_of_checkPath {path form : String} {cause : ModuleError}
    (h : checkPath .modulePath path = .error cause) :
    (ModuleError.rejectedEscapedPath form cause).fault?.isSome = true := by
  obtain ⟨fault, -, rfl⟩ := checkPath_eq_error_iff.mp h
  rfl

/-- Unescaping a path or a version calls a text invalid when it is the escaped form of nothing. Any
other text is the form of one text only, and it is answered as the checks answer that text. -/
theorem unescape_answers (form : String) :
    (unescapePath form = .error (.invalidEscapedPath form) ↔ ¬ ∃ s, IsEscapedForm s form) ∧
    (unescapeVersion form = .error (.invalidEscapedVersion form) ↔
      ¬ ∃ s, IsEscapedForm s form) ∧
    ∀ s, IsEscapedForm s form →
      (∀ t, IsEscapedForm t form → t = s) ∧
      (checkPath .modulePath s = .ok () → unescapePath form = .ok s) ∧
      (∀ cause, checkPath .modulePath s = .error cause →
        unescapePath form = .error (.rejectedEscapedPath form cause) ∧
          (ModuleError.rejectedEscapedPath form cause).fault?.isSome = true) ∧
      (elementFault? .filePath s.toList = none → unescapeVersion form = .ok s) ∧
      ∀ fault, elementFault? .filePath s.toList = some fault →
        unescapeVersion form = .error (.rejectedEscapedVersion s fault) := by
  refine ⟨unescapePath_eq_invalid_iff form, unescapeVersion_eq_invalid_iff form, ?_⟩
  intro s hs
  rw [unescapePath_eq_answerForm, unescapeVersion_eq_answerForm,
    answerForm_of_isEscapedForm hs, answerForm_of_isEscapedForm hs, answerPath, answerVersion]
  refine ⟨fun t ht => ht.unique hs, ?_, ?_, ?_, ?_⟩
  · intro hcheck
    rw [hcheck]
  · intro cause hcheck
    rw [hcheck]
    exact ⟨rfl, fault?_isSome_of_checkPath hcheck⟩
  · intro hcheck
    rw [hcheck]
  · intro fault hfault
    rw [hfault]

/-- A reserved name that is escaped is refused for what it stands for, and a host can be read as a
path and as a version. -/
theorem unescape_answers_device :
    (∃ cause, checkPath .modulePath "Con" = .error cause ∧
      unescapePath "!con" = .error (.rejectedEscapedPath "!con" cause)) ∧
    unescapeVersion "!con" = .error (.rejectedEscapedVersion "Con" (.reservedName "Con")) ∧
    unescapePath "example.com" = .ok "example.com" ∧
    unescapeVersion "example.com" = .ok "example.com" := by
  have hdevice : IsEscapedForm "Con" "!con" := ⟨(isEscapable_iff _).mp (by decide), by decide⟩
  have hhost : IsEscapedForm "example.com" "example.com" :=
    ⟨(isEscapable_iff _).mp (by decide), by decide⟩
  obtain ⟨-, -, hforms⟩ := unescape_answers "!con"
  obtain ⟨-, -, hpath, -, hversion⟩ := hforms "Con" hdevice
  obtain ⟨-, -, hforms'⟩ := unescape_answers "example.com"
  obtain ⟨-, hpath', -, hversion', -⟩ := hforms' "example.com" hhost
  have hcheck : checkPath .modulePath "Con" =
      .error (.malformedPath .modulePath "Con" (.reservedName "Con")) := by decide +kernel
  exact ⟨⟨_, hcheck, (hpath _ hcheck).1⟩, hversion _ (by decide +kernel),
    hpath' (by decide +kernel), hversion' (by decide +kernel)⟩

/-! ## Escaping -/

theorem escapeChecked_eq_error_iff {s : String} {cause : ModuleError} :
    escapeChecked s = .error cause ↔
      isEscapable s.toList = false ∧ cause = .internalInconsistency s := by
  unfold escapeChecked
  cases isEscapable s.toList <;> simp [eq_comm]

/-- Escaping a path fails as its check does, and in no other way. -/
theorem escapePath_eq_error_iff {path : String} {cause : ModuleError} :
    escapePath path = .error cause ↔ checkPath .modulePath path = .error cause := by
  unfold escapePath
  cases h : checkPath .modulePath path with
  | error other => simp [bind, Except.bind]
  | ok u =>
      have hescapable := isEscapable_of_checkPath h
      simp [bind, Except.bind, escapeChecked_eq_error_iff, hescapable]

theorem isEscapable_iff_bang_not_mem {s : List Char} :
    isEscapable s = true ↔ '!' ∉ s ∧ ∀ c ∈ s, isAscii c = true := by
  simp only [isEscapable_iff, forall₂_and, ne_eq, List.forall_mem_ne']

/-- Without `!` it is characters beyond ASCII that have no escaped form. -/
theorem isEscapable_eq_false_iff {s : List Char} (h : '!' ∉ s) :
    isEscapable s = false ↔ ∃ c ∈ s, isAscii c = false := by
  rw [← Bool.not_eq_true, isEscapable_iff_bang_not_mem]
  simp [h]

/-- A version that is not disallowed can still hold characters beyond ASCII. -/
theorem escapeVersion_eq_error_iff {version : String} {cause : ModuleError} :
    escapeVersion version = .error cause ↔
      (elementFault? .filePath version.toList ≠ none ∨ '!' ∈ version.toList) ∧
        cause = .disallowedVersion version ∨
      elementFault? .filePath version.toList = none ∧ '!' ∉ version.toList ∧
        (∃ c ∈ version.toList, isAscii c = false) ∧ cause = .internalInconsistency version := by
  rw [escapeVersion_eq_ite]
  split
  case isTrue h =>
      rw [Except.error.injEq, eq_comm]
      refine ⟨fun hcause => .inl ⟨h, hcause⟩, ?_⟩
      intro hcause
      rcases hcause with hcause | ⟨hcheck, hbang, -⟩
      · exact hcause.2
      · exact (h.elim (fun hfault => hfault hcheck) hbang).elim
  case isFalse h =>
      obtain ⟨hcheck, hbang⟩ := not_or.mp h
      rw [escapeChecked_eq_error_iff, isEscapable_eq_false_iff hbang]
      simp [not_not.mp hcheck, hbang]

/-- Beyond ASCII only letters stand in file names. -/
theorem isAlphabetic_of_elementFault? {element : List Char}
    (h : elementFault? .filePath element = none) {c : Char} (hc : c ∈ element)
    (hascii : isAscii c = false) : isAlphabetic c = true := by
  have hallowed := ((elementFault?_eq_none_iff _ _).mp h).allowed c hc
  simpa [PathKind.allows, hascii] using hallowed

/-- Escaping a path fails with the error of its check and is never inconsistent with it. A version
is disallowed when it is no file name or holds `!`, and escaping it is inconsistent with that check
when it holds other characters beyond ASCII, which are letters. All other versions have an escaped
form, the semantic versions among them. -/
theorem escape_refuses (s : String) :
    (∀ cause, escapePath s = .error cause ↔ checkPath .modulePath s = .error cause) ∧
    (∀ input, escapePath s ≠ .error (.internalInconsistency input)) ∧
    (escapeVersion s = .error (.disallowedVersion s) ↔
      elementFault? .filePath s.toList ≠ none ∨ '!' ∈ s.toList) ∧
    (escapeVersion s = .error (.internalInconsistency s) ↔
      elementFault? .filePath s.toList = none ∧ '!' ∉ s.toList ∧
        ∃ c ∈ s.toList, isAscii c = false) ∧
    (elementFault? .filePath s.toList = none →
      ∀ c ∈ s.toList, isAscii c = false → isAlphabetic c = true) ∧
    ((∃ form, escapeVersion s = .ok form) ↔
      elementFault? .filePath s.toList = none ∧ '!' ∉ s.toList ∧
        ∀ c ∈ s.toList, isAscii c = true) ∧
    ((Version.parse? s.toList).isSome = true → ∃ form, escapeVersion s = .ok form) := by
  refine ⟨fun cause => escapePath_eq_error_iff, ?_, ?_, ?_, ?_, ?_, ?_⟩
  · intro input h
    obtain ⟨fault, -, hcause⟩ := checkPath_eq_error_iff.mp (escapePath_eq_error_iff.mp h)
    contradiction
  · simp [escapeVersion_eq_error_iff]
  · simp [escapeVersion_eq_error_iff]
  · exact fun h c hc => isAlphabetic_of_elementFault? h hc
  · rw [exists_escapeVersion_iff, isEscapable_iff_bang_not_mem]
  · intro h
    obtain ⟨v, hv⟩ := Option.isSome_iff_exists.mp h
    exact (exists_escapeVersion_iff s).mpr
      ⟨Version.elementFault?_of_parse? hv, Version.isEscapable_of_parse? hv⟩

/-- A letter beyond ASCII passes the check of a version and cannot be escaped, but the capital
letters of a semantic version can. -/
theorem escape_refuses_letter :
    elementFault? .filePath "vé".toList = none ∧ isAlphabetic 'é' = true ∧
      escapeVersion "vé" = .error (.internalInconsistency "vé") ∧
      ∃ form, escapeVersion "v1.2.3-RC1" = .ok form := by
  have hcheck : elementFault? .filePath "vé".toList = none := by decide +kernel
  have hletter : 'é' ∈ "vé".toList := by decide
  have hascii : isAscii 'é' = false := by decide
  obtain ⟨-, -, -, hinconsistent, halphabetic, -⟩ := escape_refuses "vé"
  obtain ⟨-, -, -, -, -, -, hversion⟩ := escape_refuses "v1.2.3-RC1"
  exact ⟨hcheck, halphabetic hcheck 'é' hletter hascii,
    hinconsistent.mpr ⟨hcheck, by decide, 'é', hletter, hascii⟩, hversion (by decide +kernel)⟩

end ModuleId
