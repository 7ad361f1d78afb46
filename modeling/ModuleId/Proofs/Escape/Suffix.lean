import Mathlib
import ModuleId.Proofs.Escape.RoundTrip
import ModuleId.Proofs.Escape.Shape
import ModuleId.Proofs.Path.Suffix

/-! # Suffixes of escaped paths

A path is split at a slash, a dot or a dash with lower-case letters behind it. Escaping an
upper-case letter puts in `!`, so no new place of this kind comes up, and the escaped form of a text
is split where the text is. -/

namespace ModuleId

open Text

/-! ## Texts that are their own form -/

/-- Whether a text is its own escaped form: it holds neither `!` nor upper-case letters. -/
def isOwnForm (s : List Char) : Bool :=
  s.all fun c => c != '!' && !c.isUpper

theorem isOwnForm_iff {s : List Char} :
    isOwnForm s = true ↔ '!' ∉ s ∧ ∀ c ∈ s, c.isUpper = false := by
  simp only [isOwnForm, List.all_eq_true, Bool.and_eq_true, bne_iff_ne, Bool.not_eq_true', imp_and,
    forall_and, ne_eq, List.forall_mem_ne']

/-- Such a text is the form of no other text. -/
theorem escapeText_eq_iff_of_isOwnForm {s form : List Char} (h : isOwnForm form = true) :
    escapeText s = form ↔ s = form := by
  obtain ⟨hbang, hupper⟩ := isOwnForm_iff.mp h
  constructor
  · intro hs
    have hs' : ∀ c ∈ s, c.isUpper = false := by
      intro c hc
      rw [← Bool.not_eq_true]
      intro hcase
      exact hbang (hs ▸ bang_mem_escapeText hc hcase)
    rw [← hs, escapeText_of_no_isUpper hs']
  · intro hs
    rw [hs, escapeText_of_no_isUpper hupper]

theorem host_escapeText (s : List Char) : host (escapeText s) = escapeText (host s) :=
  congrArg Prod.fst (cut_escapeText (by decide : IsKept '/') s)

theorem isDotted_escapeText (s : List Char) : isDotted (escapeText s) = isDotted s := by
  rw [Bool.eq_iff_iff, isDotted_iff, isDotted_iff, host_escapeText,
    escapeText_eq_iff_of_isOwnForm (by decide), mem_escapeText_iff (by decide)]

theorem isKept_of_isDigit {c : Char} (h : c.isDigit = true) : IsKept c := by
  refine ⟨?_, ?_⟩
  · intro hc
    rw [hc] at h
    contradiction
  · rw [← Bool.not_eq_true]
    intro halpha
    rw [isDigit_eq_false_of_isAlpha halpha] at h
    contradiction

/-! ## Ends of escaped texts -/

/-- The final run of kept characters is the same in the form. -/
theorem splitTrailing_escapeText {p : Char → Bool} (hp : ∀ c, p c = true → IsKept c)
    (s : List Char) :
    splitTrailing p (escapeText s) = (escapeText (splitTrailing p s).1, (splitTrailing p s).2) := by
  obtain ⟨head, run, hsplit⟩ : ∃ head run, splitTrailing p s = (head, run) := ⟨_, _, rfl⟩
  rw [hsplit]
  obtain ⟨rfl, hrun, hhead⟩ := splitTrailing_eq_iff.mp hsplit
  have hkept : escapeText run = run := by
    apply escapeText_of_no_isUpper
    intro c hc
    exact (Bool.or_eq_false_iff.mp (hp c (hrun c hc)).2).1
  refine splitTrailing_eq_iff.mpr ⟨by rw [escapeText_append, hkept], hrun, ?_⟩
  intro c hc
  rw [← Bool.not_eq_true]
  intro hcp
  have hlast : head.getLast? = some c := (getLast?_escapeText_eq_some_iff (hp c hcp)).mp hc
  rw [hhead c hlast] at hcp
  contradiction

/-- A kept character and a text behind it that is its own form end the escaped form where they end
the text. -/
theorem isSuffixOf?_escapeText {c : Char} (hc : IsKept c) {form : List Char}
    (hform : isOwnForm form = true) (s : List Char) :
    (c :: form).isSuffixOf? (escapeText s) = ((c :: form).isSuffixOf? s).map escapeText := by
  ext front
  rw [List.isSuffixOf?_eq_some_iff_append_eq, Option.map_eq_some_iff]
  constructor
  · intro h
    obtain ⟨t, u, rfl, rfl, hu⟩ := escapeText_eq_append_cons hc h.symm
    obtain rfl := (escapeText_eq_iff_of_isOwnForm hform).mp hu
    exact ⟨t, List.isSuffixOf?_eq_some_iff_append_eq.mpr rfl, rfl⟩
  · intro h
    obtain ⟨t, ht, rfl⟩ := h
    obtain rfl := List.isSuffixOf?_eq_some_iff_append_eq.mp ht
    rw [escapeText_append, escapeText_cons, escapeChar_of_isKept hc,
      (escapeText_eq_iff_of_isOwnForm hform).mpr rfl]
    rfl

theorem cutUnstable_escapeText (s : List Char) :
    cutUnstable (escapeText s) = (escapeText (cutUnstable s).1, (cutUnstable s).2) := by
  have hmark : unstableMark.toList.isSuffixOf? (escapeText s) =
      (unstableMark.toList.isSuffixOf? s).map escapeText :=
    isSuffixOf?_escapeText (c := '-') (by decide) (by decide) s
  rw [cutUnstable, cutUnstable, hmark]
  cases unstableMark.toList.isSuffixOf? s <;> rfl

/-! ## Cuts -/

theorem cutSlashed?_escapeText (s : List Char) :
    cutSlashed? (escapeText s) = (cutSlashed? s).map (Prod.map escapeText id) := by
  have hkept : ∀ c : Char, (c.isDigit || c == '.') = true → IsKept c := by
    intro c hc
    rcases Bool.or_eq_true_iff.mp hc with hdigit | hdot
    · exact isKept_of_isDigit hdigit
    · exact beq_iff_eq.mp hdot ▸ (by decide : IsKept '.')
  have hsplit := splitTrailing_escapeText hkept s
  have hmark : ∀ head, ['/', 'v'].isSuffixOf? (escapeText head) =
      (['/', 'v'].isSuffixOf? head).map escapeText :=
    isSuffixOf?_escapeText (by decide) (by decide)
  obtain ⟨head, run, hs⟩ :
      ∃ head run, splitTrailing (fun c => c.isDigit || c == '.') s = (head, run) := ⟨_, _, rfl⟩
  rw [hs] at hsplit
  cases run with
  | nil => simp [cutSlashed?, hs, hsplit]
  | cons c rest =>
      simp only [cutSlashed?, hs, hsplit, hmark]
      cases ['/', 'v'].isSuffixOf? head with
      | none => rfl
      | some stem =>
          simp only [Option.map_some]
          split <;> rfl

theorem cutDotted?_escapeText (s : List Char) :
    cutDotted? (escapeText s) = (cutDotted? s).map (Prod.map escapeText id) := by
  have hsplit := splitTrailing_escapeText (fun c => isKept_of_isDigit) (cutUnstable s).1
  have hmark : ∀ head, ['.', 'v'].isSuffixOf? (escapeText head) =
      (['.', 'v'].isSuffixOf? head).map escapeText :=
    isSuffixOf?_escapeText (by decide) (by decide)
  simp only [cutDotted?, isDotted_escapeText, cutUnstable_escapeText, hsplit, hmark]
  split
  case isFalse => rfl
  case isTrue =>
      cases ['.', 'v'].isSuffixOf? (splitTrailing Char.isDigit (cutUnstable s).1).1 with
      | none => rfl
      | some stem =>
          simp only [Option.map_some]
          split <;> rfl

/-- Escaping a text and cutting its suffix can be done in either order. -/
theorem cutMajor?_escapeText (s : List Char) :
    cutMajor? (escapeText s) = (cutMajor? s).map (Prod.map escapeText id) := by
  rw [cutMajor?, cutMajor?, isDotted_escapeText, cutDotted?_escapeText, cutSlashed?_escapeText]
  split <;> rfl

/-! ## Escaped paths -/

theorem isUpper_eq_false_of_allowedInHost {c : Char} (h : allowedInHost c = true) :
    c.isUpper = false := by
  simp only [allowedInHost, Bool.or_eq_true, beq_iff_eq] at h
  rcases h with ((rfl | rfl) | hdigit) | hlower
  · decide
  · decide
  · exact (Bool.or_eq_false_iff.mp (isKept_of_isDigit hdigit).2).1
  · rw [← Bool.not_eq_true]
    exact Char.not_isUpper_of_isLower hlower

/-- The host of a module path is its own form. -/
theorem escapeText_host {path : List Char} (h : hostFault? (host path) = none) :
    escapeText (host path) = host path := by
  apply escapeText_of_no_isUpper
  intro c hc
  exact isUpper_eq_false_of_allowedInHost (allowedInHost_of_hostFault? h c hc)

/-- The escaped form of a module path is split where the path is, at the same suffix, and has the
host of the path. -/
theorem splitMajor?_escapePath {path form : String} (h : escapePath path = .ok form) :
    ∃ split, splitMajor? path = some split ∧
      splitMajor? form = some ⟨String.ofList (escapeText split.stem.toList), split.suffix⟩ ∧
      host form.toList = host path.toList ∧
      (dottedHost.toList <+: form.toList ↔ dottedHost.toList <+: path.toList) := by
  obtain ⟨hpath, hform⟩ := (escapePath_eq_ok_iff path form).mp h
  obtain ⟨-, hhost, hsome⟩ := (checkPath_modulePath_eq_ok_iff path).mp hpath
  obtain ⟨-, htext⟩ := (escapeChecked_eq_ok_iff path form).mp hform
  obtain ⟨⟨stem, suffix⟩, hcut⟩ := Option.isSome_iff_exists.mp hsome
  refine ⟨⟨String.ofList stem, String.ofList suffix⟩, ?_, ?_, ?_, ?_⟩
  · simp [splitMajor?_eq_some_iff, hcut]
  · simp [splitMajor?_eq_some_iff, ← htext, cutMajor?_escapeText, hcut]
  · rw [← htext, host_escapeText, escapeText_host hhost]
  · rw [← List.isPrefixOf_iff_prefix, ← List.isPrefixOf_iff_prefix, ← isDotted, ← isDotted,
      ← htext, isDotted_escapeText]

/-- A last element that is a suffix but for the case of a letter makes no suffix of the form. -/
theorem splitMajor?_escapePath_case :
    escapePath "github.com/Azure/V2" = .ok "github.com/!azure/!v2" ∧
      splitMajor? "github.com/!azure/!v2" = some ⟨"github.com/!azure/!v2", ""⟩ ∧
      escapePath "gopkg.in/YAML-Unstable.v2-unstable" =
        .ok "gopkg.in/!y!a!m!l-!unstable.v2-unstable" ∧
      splitMajor? "gopkg.in/!y!a!m!l-!unstable.v2-unstable" =
        some ⟨"gopkg.in/!y!a!m!l-!unstable", ".v2-unstable"⟩ := by
  have hslashed : escapePath "github.com/Azure/V2" = .ok "github.com/!azure/!v2" := by
    decide +kernel
  have hdotted : escapePath "gopkg.in/YAML-Unstable.v2-unstable" =
      .ok "gopkg.in/!y!a!m!l-!unstable.v2-unstable" := by decide +kernel
  have hplain : splitMajor? "github.com/Azure/V2" = some ⟨"github.com/Azure/V2", ""⟩ := by
    decide +kernel
  have hyaml : splitMajor? "gopkg.in/YAML-Unstable.v2-unstable" =
      some ⟨"gopkg.in/YAML-Unstable", ".v2-unstable"⟩ := by decide +kernel
  obtain ⟨split, hsplit, hform, -⟩ := splitMajor?_escapePath hslashed
  obtain rfl := Option.some.inj (hplain.symm.trans hsplit)
  obtain ⟨other, hother, hform', -⟩ := splitMajor?_escapePath hdotted
  obtain rfl := Option.some.inj (hyaml.symm.trans hother)
  exact ⟨hslashed, hform, hdotted, hform'⟩

end ModuleId
