import ModuleId.Proofs.Order.Canonical
import ModuleId.Proofs.Release.Check

/-! # The form in which versions are released

The form of a version that is to be released keeps what ranks the version, and the incompatible
mark. It keeps nothing else, so versions that agree in both have one form, and the form of a form is
the form itself. -/

namespace ModuleId

namespace Version

theorem build_canonicalRelease (v : Version) :
    v.canonicalRelease.build =
      if v.isIncompatible then [BuildIdentifier.incompatible] else [] :=
  rfl

theorem isIncompatible_canonicalRelease (v : Version) :
    v.canonicalRelease.isIncompatible = v.isIncompatible := by
  rw [isIncompatible, build_canonicalRelease]
  cases v.isIncompatible <;> rfl

theorem buildText_canonicalRelease (v : Version) :
    v.canonicalRelease.buildText =
      if v.buildText = "+incompatible".toList then "+incompatible".toList else [] := by
  by_cases h : v.isIncompatible = true
  · rw [if_pos ((isIncompatible_iff v).mp h), ← isIncompatible_iff,
      isIncompatible_canonicalRelease, h]
  · rw [if_neg (mt (isIncompatible_iff v).mpr h)]
    rw [buildText, build_canonicalRelease, if_neg h]
    rfl

theorem canonicalRelease_canonicalRelease (v : Version) :
    v.canonicalRelease.canonicalRelease = v.canonicalRelease := by
  have h := isIncompatible_canonicalRelease v
  rw [canonicalRelease, h]
  rfl

/-- A form that is released is found again from what ranks the version and from the mark. -/
theorem canonicalRelease_eq_iff {v w : Version} :
    v.canonicalRelease = w.canonicalRelease ↔
      v.precedence w = .eq ∧ v.isIncompatible = w.isIncompatible := by
  rw [precedence_eq_eq_iff]
  constructor
  · intro h
    have hmark := congrArg isIncompatible h
    rw [isIncompatible_canonicalRelease, isIncompatible_canonicalRelease] at hmark
    have hkept : v.canonicalRelease.canonical = w.canonicalRelease.canonical := congrArg canonical h
    exact ⟨hkept, hmark⟩
  · intro h
    obtain ⟨hkept, hmark⟩ := h
    simp only [canonical, full.injEq, and_true] at hkept
    obtain ⟨hmajor, hminor, hpatch, hprerelease⟩ := hkept
    rw [canonicalRelease, canonicalRelease, hmajor, hminor, hpatch, hprerelease, hmark]

end Version

/-! ## Forms of texts -/

theorem canonicalVersion?_of_parse? {version : String} {v : Version}
    (h : Version.parse? version.toList = some v) :
    canonicalVersion? version = some (String.ofList v.canonicalRelease.text) := by
  rw [canonicalVersion?, h, Option.map_some]

theorem canonicalVersion?_eq_none_iff {version : String} :
    canonicalVersion? version = none ↔ Version.parse? version.toList = none := by
  rw [canonicalVersion?, Option.map_eq_none_iff]

/-- The form of a version is read as the canonical release of the version. -/
theorem parse?_of_canonicalVersion? {version form : String}
    (h : canonicalVersion? version = some form) :
    ∃ v, Version.parse? version.toList = some v ∧
      Version.parse? form.toList = some v.canonicalRelease := by
  obtain ⟨v, hv, rfl⟩ := Option.map_eq_some_iff.mp h
  refine ⟨v, hv, ?_⟩
  rw [String.toList_ofList, Version.parse?_text]

/-- The form of a version that is to be released stands for the version: it ranks equal, names the
same major version and prerelease, and of the build metadata it has the incompatible mark alone.
Versions have the same form just when they rank equal and both or neither are incompatible. -/
theorem canonicalVersion?_isNormalForm (version : String) :
    (canonicalVersion? version = none ↔ Version.parse? version.toList = none) ∧
      (∀ form, canonicalVersion? version = some form →
        canonicalVersion? form = some form ∧ compareVersions version form = .eq ∧
          ∃ v w, Version.parse? version.toList = some v ∧ Version.parse? form.toList = some w ∧
            w.majorText = v.majorText ∧ w.prereleaseText = v.prereleaseText ∧
            w.buildText =
              if v.buildText = "+incompatible".toList then "+incompatible".toList else []) ∧
      ∀ other v w, Version.parse? version.toList = some v → Version.parse? other.toList = some w →
        (canonicalVersion? version = canonicalVersion? other ↔
          compareVersions version other = .eq ∧
            (v.buildText = "+incompatible".toList ↔ w.buildText = "+incompatible".toList)) := by
  refine ⟨canonicalVersion?_eq_none_iff, ?_, ?_⟩
  · intro form h
    obtain ⟨v, hv, hform⟩ := parse?_of_canonicalVersion? h
    refine ⟨?_, ?_, v, v.canonicalRelease, hv, hform, rfl, rfl, v.buildText_canonicalRelease⟩
    · rw [canonicalVersion?_of_parse? hform, v.canonicalRelease_canonicalRelease,
        ← canonicalVersion?_of_parse? hv, h]
    · rw [compareVersions, textPrecedence_eq_eq_iff, hv, hform]
      rfl
  · intro other v w hv hw
    have hprecedence : compareVersions version other = v.precedence w := by
      rw [compareVersions, textPrecedence, hv, hw]
    rw [canonicalVersion?_of_parse? hv, canonicalVersion?_of_parse? hw, Option.some.injEq,
      String.ofList_inj, hprecedence, ← v.isIncompatible_iff, ← w.isIncompatible_iff,
      ← Bool.eq_iff_iff, ← Version.canonicalRelease_eq_iff]
    exact ⟨Version.text_injective _ _, congrArg Version.text⟩

/-- Of the build metadata only the incompatible mark tells two forms apart. -/
theorem canonicalVersion?_isNormalForm_candidate :
    canonicalVersion? "v2.0.0-rc-1.0+linux" = some "v2.0.0-rc-1.0" ∧
      canonicalVersion? "v2.0.0-rc-1.0" = some "v2.0.0-rc-1.0" ∧
      canonicalVersion? "v2.0.0-rc-1.0+linux" = canonicalVersion? "v2.0.0-rc-1.0+arm.64" ∧
      canonicalVersion? "v2.0.0-rc-1.0+linux" ≠ canonicalVersion? "v2.0.0-rc-1.0+incompatible" := by
  let candidate (build : List BuildIdentifier) : Version :=
    .full ⟨['2'], by decide⟩ Numeral.zero Numeral.zero
      [⟨"rc-1".toList, by decide⟩, ⟨['0'], by decide⟩] build
  have hlinux : Version.parse? "v2.0.0-rc-1.0+linux".toList =
      some (candidate [⟨"linux".toList, by decide⟩]) := by decide +kernel
  have harm : Version.parse? "v2.0.0-rc-1.0+arm.64".toList =
      some (candidate [⟨"arm".toList, by decide⟩, ⟨"64".toList, by decide⟩]) := by decide +kernel
  have hincompatible : Version.parse? "v2.0.0-rc-1.0+incompatible".toList =
      some (candidate [BuildIdentifier.incompatible]) := by decide +kernel
  have hform : canonicalVersion? "v2.0.0-rc-1.0+linux" = some "v2.0.0-rc-1.0" := by decide +kernel
  obtain ⟨-, hforms, hsame⟩ := canonicalVersion?_isNormalForm "v2.0.0-rc-1.0+linux"
  refine ⟨hform, (hforms _ hform).1, ?_, ?_⟩
  · rw [hsame _ _ _ hlinux harm]
    decide +kernel
  · rw [Ne, hsame _ _ _ hlinux hincompatible]
    decide +kernel

end ModuleId
