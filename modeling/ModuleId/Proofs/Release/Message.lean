import Mathlib
import ModuleId.Proofs.Escape.Refusal
import ModuleId.Proofs.Release.Rule
import ModuleId.Proofs.Text.Control

/-! # Messages that input cannot forge

Most messages quote what they are about. The others show only text that has passed a check, so it
holds no control characters. The one exception is the message about a malformed version, which shows
the version as it is. -/

namespace ModuleId

open Text

/-! ## Messages -/

/-- What is wrong with a path is said without control characters, whatever the path holds. -/
theorem holdsControl_message_fault (fault : PathFault) : holdsControl fault.message = false := by
  cases fault with
  | invalidElement element => exact holdsControl_append_quoted (by decide +kernel) element
  | invalidChar c => exact holdsControl_append_quotedChar (by decide +kernel) c
  | reservedName short =>
      exact holdsControl_append_eq_false (holdsControl_quoted short) (by decide +kernel)
  | invalidCharInFirstElement c =>
      apply holdsControl_append_eq_false
      · exact holdsControl_append_quotedChar (by decide +kernel) c
      · decide +kernel
  | _ => decide +kernel

/-- A message that passes on a cause. -/
theorem holdsControl_caused {message cause : String} (hmessage : holdsControl message = false)
    (hcause : holdsControl cause = false) : holdsControl (message ++ ": " ++ cause) = false := by
  apply holdsControl_append_eq_false
  · exact holdsControl_append_eq_false hmessage (by decide)
  · exact hcause

/-- The errors that quote all they show of the input, also inside another error. -/
def ModuleError.quotes : ModuleError → Bool
  | malformedVersion _ => false
  | mismatchedMajor _ _ _ => false
  | rejectedEscapedPath _ cause => cause.quotes
  | _ => true

theorem holdsControl_message_of_quotes {cause : ModuleError} (h : cause.quotes = true) :
    holdsControl cause.message = false := by
  -- An error inside another one is shown unquoted, so what is needed of it is the same again.
  induction cause with
  | malformedVersion version => contradiction
  | mismatchedMajor path version want => contradiction
  | malformedPath kind path fault =>
      have hlabel : holdsControl ("malformed " ++ kind.name ++ " path ") = false := by
        cases kind <;> decide +kernel
      exact holdsControl_caused (holdsControl_append_quoted hlabel path)
        (holdsControl_message_fault fault)
  | rejectedEscapedPath form cause ih =>
      exact holdsControl_caused (holdsControl_append_quoted (by decide +kernel) form) (ih h)
  | rejectedEscapedVersion version fault =>
      exact holdsControl_caused (holdsControl_append_quoted (by decide +kernel) version)
        (holdsControl_message_fault fault)
  | disallowedVersion text => exact holdsControl_append_quoted (by decide +kernel) text
  | invalidEscapedPath text => exact holdsControl_append_quoted (by decide +kernel) text
  | invalidEscapedVersion text => exact holdsControl_append_quoted (by decide +kernel) text
  | internalInconsistency text => exact holdsControl_append_quoted (by decide +kernel) text

theorem holdsControl_malformedVersion (version : String) :
    holdsControl (ModuleError.malformedVersion version).message = holdsControl version := by
  have htext : holdsControl "malformed semantic version " = false := by decide +kernel
  calc holdsControl (ModuleError.malformedVersion version).message
      = (holdsControl "malformed semantic version " || holdsControl version) :=
        holdsControl_append _ _
    _ = holdsControl version := by rw [htext, Bool.false_or]

/-! ## What is reported -/

/-- The errors of the checks, of escaping and of unescaping. -/
inductive IsReported : ModuleError → Prop
  | checkRelease {path version cause} (h : checkRelease path version = .error cause) :
      IsReported cause
  | checkPath {kind path cause} (h : checkPath kind path = .error cause) : IsReported cause
  | escapePath {path cause} (h : escapePath path = .error cause) : IsReported cause
  | escapeVersion {version cause} (h : escapeVersion version = .error cause) : IsReported cause
  | unescapePath {form cause} (h : unescapePath form = .error cause) : IsReported cause
  | unescapeVersion {form cause} (h : unescapeVersion form = .error cause) : IsReported cause

section Reported

variable {cause : ModuleError}

theorem quotes_of_checkPath {kind : PathKind} {path : String}
    (h : checkPath kind path = .error cause) : cause.quotes = true := by
  obtain ⟨fault, -, rfl⟩ := checkPath_eq_error_iff.mp h
  rfl

theorem quotes_of_escapeVersion {version : String} (h : escapeVersion version = .error cause) :
    cause.quotes = true := by
  rcases escapeVersion_eq_error_iff.mp h with ⟨-, rfl⟩ | ⟨-, -, -, rfl⟩
  · rfl
  · rfl

/-- Only the refusal of a path is ever inside the refusal of its escaped form. -/
theorem quotes_of_unescapePath {form : String} (h : unescapePath form = .error cause) :
    cause.quotes = true := by
  rw [unescapePath_eq_answerForm] at h
  rcases answerForm_eq_error h with rfl | ⟨path, hanswer⟩
  · rfl
  · obtain ⟨inner, hinner, rfl⟩ := answerPath_eq_error_iff.mp hanswer
    exact (quotes_of_checkPath hinner : inner.quotes = true)

theorem quotes_of_unescapeVersion {form : String} (h : unescapeVersion form = .error cause) :
    cause.quotes = true := by
  rw [unescapeVersion_eq_answerForm] at h
  rcases answerForm_eq_error h with rfl | ⟨version, hanswer⟩
  · rfl
  · obtain ⟨fault, -, rfl⟩ := answerVersion_eq_error_iff.mp hanswer
    rfl

/-- A mismatch asks for digits behind `v`, or for what no input has a part in. -/
theorem holdsControl_of_expects {suffix : List Char} {meets : Version → Prop} {want : String}
    (h : Expects suffix meets want) : holdsControl want = false := by
  have hnumber : ∀ {number}, IsNumber number →
      holdsControl (String.ofList ('v' :: number)) = false := by
    intro number hnumber
    apply holdsControl_eq_false_of_isVisible
    rw [String.toList_ofList, List.forall_mem_cons]
    refine ⟨by decide, ?_⟩
    intro c hc
    apply isVisible_of_isAlphanum
    simp [Char.isAlphanum, List.all_eq_true.mp hnumber.2 c hc]
  cases h with
  | unsuffixed => decide +kernel
  | slashed h => exact hnumber h
  | dotted h hmark => exact hnumber h
  | unnumbered => decide +kernel

/-- A mismatch quotes nothing, but by then the path and the version have passed their checks. -/
theorem holdsControl_mismatchedMajor {path version want : String} {v : Version}
    (hpath : checkPath .modulePath path = .ok ()) (hversion : Version.parse? version.toList = some v)
    (hwant : holdsControl want = false) :
    holdsControl (ModuleError.mismatchedMajor path version want).message = false := by
  have hpath' := holdsControl_eq_false_of_isVisible (isVisible_of_checkPath hpath)
  have hversion' := holdsControl_eq_false_of_isVisible (isVisible_of_parse? hversion)
  apply holdsControl_append_eq_false _ (by decide)
  apply holdsControl_append_eq_false _ hwant
  apply holdsControl_append_eq_false _ (by decide)
  apply holdsControl_append_eq_false _ hversion'
  apply holdsControl_append_eq_false _ (by decide)
  exact holdsControl_append_eq_false (by decide +kernel) hpath'

/-- The message of an error is plain, or the error is about a version that is shown as it is. -/
theorem IsReported.cases_message (h : IsReported cause) :
    holdsControl cause.message = false ∨ ∃ version, cause = .malformedVersion version := by
  cases h with
  | @checkRelease path version cause h =>
      have hrule := checkRelease_checkRule path version
      rw [h] at hrule
      cases hrule with
      | malformedPath hpath => exact .inl (holdsControl_message_of_quotes (quotes_of_checkPath hpath))
      | malformedVersion hpath hversion => exact .inr ⟨version, rfl⟩
      | mismatched hpath hversion hsplit hexpects hmeets =>
          exact .inl (holdsControl_mismatchedMajor hpath hversion (holdsControl_of_expects hexpects))
  | checkPath h => exact .inl (holdsControl_message_of_quotes (quotes_of_checkPath h))
  | escapePath h =>
      have hpath := escapePath_eq_error_iff.mp h
      exact .inl (holdsControl_message_of_quotes (quotes_of_checkPath hpath))
  | escapeVersion h => exact .inl (holdsControl_message_of_quotes (quotes_of_escapeVersion h))
  | unescapePath h => exact .inl (holdsControl_message_of_quotes (quotes_of_unescapePath h))
  | unescapeVersion h => exact .inl (holdsControl_message_of_quotes (quotes_of_unescapeVersion h))

/-- The message of an error that is reported holds a control character just when it is about a
malformed version that holds one. In particular it holds none when it is about a mismatch, or when
it passes on what is wrong with the path behind an escaped form. -/
theorem holdsControl_message_iff (h : IsReported cause) :
    (holdsControl cause.message = true ↔
      ∃ version, cause = .malformedVersion version ∧ holdsControl version = true) ∧
    (∀ path version want, cause = .mismatchedMajor path version want →
      holdsControl cause.message = false) ∧
    ∀ form inner, cause = .rejectedEscapedPath form inner → holdsControl cause.message = false := by
  rcases h.cases_message with hplain | ⟨version, rfl⟩
  · refine ⟨?_, fun _ _ _ _ => hplain, fun _ _ _ => hplain⟩
    rw [hplain]
    constructor
    · intro hcontrol
      contradiction
    · intro ⟨version, hcause, hcontrol⟩
      rw [hcause, holdsControl_malformedVersion, hcontrol] at hplain
      contradiction
  · rw [holdsControl_malformedVersion]
    refine ⟨⟨fun hcontrol => ⟨version, rfl, hcontrol⟩, ?_⟩, nofun, nofun⟩
    intro ⟨other, hcause, hcontrol⟩
    rw [ModuleError.malformedVersion.inj hcause]
    exact hcontrol

end Reported

/-- A line feed in a version that is no version is shown as it is. In a path it is quoted, also
inside another message. -/
theorem holdsControl_message_newline :
    checkRelease "example.com" "v1\nok" = .error (.malformedVersion "v1\nok") ∧
      holdsControl (ModuleError.malformedVersion "v1\nok").message = true ∧
      checkRelease "example.com/v2" "v1.0.0" =
        .error (.mismatchedMajor "example.com/v2" "v1.0.0" "v2") ∧
      holdsControl (ModuleError.mismatchedMajor "example.com/v2" "v1.0.0" "v2").message = false ∧
      unescapePath "a.b/\n" = .error (.rejectedEscapedPath "a.b/\n"
        (.malformedPath .modulePath "a.b/\n" (.invalidChar '\n'))) ∧
      holdsControl (ModuleError.rejectedEscapedPath "a.b/\n"
        (.malformedPath .modulePath "a.b/\n" (.invalidChar '\n'))).message = false := by
  have hmalformed : checkRelease "example.com" "v1\nok" = .error (.malformedVersion "v1\nok") := by
    decide +kernel
  have hmismatch : checkRelease "example.com/v2" "v1.0.0" =
      .error (.mismatchedMajor "example.com/v2" "v1.0.0" "v2") := by decide +kernel
  have hrejected : unescapePath "a.b/\n" = .error (.rejectedEscapedPath "a.b/\n"
      (.malformedPath .modulePath "a.b/\n" (.invalidChar '\n'))) := by decide +kernel
  obtain ⟨hshown, -, -⟩ := holdsControl_message_iff (.checkRelease hmalformed)
  obtain ⟨-, hmajor, -⟩ := holdsControl_message_iff (.checkRelease hmismatch)
  obtain ⟨-, -, hinner⟩ := holdsControl_message_iff (.unescapePath hrejected)
  exact ⟨hmalformed, hshown.mpr ⟨_, rfl, by decide⟩, hmismatch, hmajor _ _ _ rfl, hrejected,
    hinner _ _ rfl⟩

end ModuleId
