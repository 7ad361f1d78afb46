import Mathlib
import ModuleId.Proofs.Path.Dialect
import ModuleId.Proofs.Path.Kinds

/-! # Paths in another case

The characters that the rules of a path name are no letters, every letter of ASCII may stand in an
element, and a reserved name is reserved in any case. So a check commutes with writing the path in
lower case, and paths that differ in case alone are accepted together or have the same fault. -/

namespace ModuleId

open Text

/-! ## Faults -/

/-- A fault with the part of the path that it names in lower case. -/
def PathFault.inLowerCase : PathFault → PathFault
  | .invalidElement element => .invalidElement (String.ofList (lowerCase element.toList))
  | .invalidChar char => .invalidChar char.toLower
  | .reservedName short => .reservedName (String.ofList (lowerCase short.toList))
  | .invalidCharInFirstElement char => .invalidCharInFirstElement char.toLower
  | fault => fault

/-! ## Characters -/

/-- Only a character itself is written as it in lower case, unless it is a letter. -/
theorem toLower_eq_iff {c d : Char} (hd : d.isAlpha = false) : c.toLower = d ↔ c = d := by
  by_cases hc : c.isUpper = true
  · constructor
    · intro h
      have hlower := isLower_toLower_of_isUpper hc
      rw [h, (Bool.or_eq_false_iff.mp hd).2] at hlower
      contradiction
    · intro h
      rw [h, (Bool.or_eq_false_iff.mp hd).1] at hc
      contradiction
  · rw [Char.toLower_eq_of_not_isUpper hc]

theorem toLower_beq {c d : Char} (hd : d.isAlpha = false) : (c.toLower == d) = (c == d) := by
  rw [Bool.eq_iff_iff, beq_iff_eq, beq_iff_eq, toLower_eq_iff hd]

/-- Letters are allowed in every kind of path, so their case does not count. -/
theorem allows_toLower (kind : PathKind) (c : Char) : kind.allows c.toLower = kind.allows c := by
  by_cases hc : c.isUpper = true
  · have hletter {a : Char} (ha : a.isAlpha = true) : kind.allows a = true := by
      have halphanum : a.isAlphanum = true := by simp [Char.isAlphanum, ha]
      cases kind <;> simp [PathKind.allows, isAscii_of_isAlphanum halphanum, halphanum]
    have halpha : c.isAlpha = true := by simp [Char.isAlpha, hc]
    rw [hletter halpha, hletter (by rw [Char.isAlpha_toLower_eq_isAlpha, halpha])]
  · rw [Char.toLower_eq_of_not_isUpper hc]

/-! ## Texts -/

section Text

variable {c : Char} (hc : c.isAlpha = false) (s : List Char)

include hc

theorem doubled_lowerCase : doubled c (lowerCase s) = doubled c s := by
  induction s with
  | nil => rfl
  | cons a s ih =>
      cases s with
      | nil => rfl
      | cons b s =>
          simp only [lowerCase, List.map_cons] at ih
          simp only [lowerCase, List.map_cons, doubled, toLower_beq hc, ih]

theorem map_toLower_beq (o : Option Char) : (o.map Char.toLower == some c) = (o == some c) := by
  cases o with
  | none => rfl
  | some a => simpa using toLower_beq hc

/-- A text in lower case is divided where the text is. -/
theorem splitOn_lowerCase : (lowerCase s).splitOn c = (s.splitOn c).map lowerCase := by
  induction s with
  | nil => rfl
  | cons a s ih =>
      rw [lowerCase] at ih
      rw [lowerCase, List.map_cons, List.splitOn_cons_eq_if_modifyHead,
        List.splitOn_cons_eq_if_modifyHead, toLower_beq hc, ih]
      obtain ⟨first, pieces, hs⟩ := List.exists_cons_of_ne_nil (List.splitOn_ne_nil c s)
      by_cases ha : a = c
      · simp [ha, lowerCase]
      · simp [ha, hs, lowerCase]

end Text

theorem shortName_lowerCase (element : List Char) :
    shortName (lowerCase element) = lowerCase (shortName element) := by
  have hdot : ((· != '.') ∘ Char.toLower) = (· != '.') := by
    funext c
    exact congrArg (! ·) (toLower_beq (by decide))
  rw [shortName, lowerCase, List.takeWhile_map, hdot]
  rfl

theorem isReserved_lowerCase (short : List Char) :
    isReserved (lowerCase short) = isReserved short := by
  rw [isReserved, upperCase_lowerCase]
  rfl

/-! ## Checks -/

theorem find?_not_allows_lowerCase (kind : PathKind) (element : List Char) :
    ((lowerCase element).find? fun c => !kind.allows c) =
      (element.find? fun c => !kind.allows c).map Char.toLower := by
  rw [lowerCase, List.find?_map]
  simp only [Function.comp_def, allows_toLower]

/-- The first rule that an element breaks is the same in lower case. -/
theorem elementFault?_lowerCase (kind : PathKind) (element : List Char) :
    elementFault? kind (lowerCase element) =
      (elementFault? kind element).map PathFault.inLowerCase := by
  have hempty : (lowerCase element).isEmpty = element.isEmpty := List.isEmpty_map
  have hdots : (lowerCase element).all (· == '.') = element.all (· == '.') := by
    rw [lowerCase, List.all_map]
    exact congrArg element.all (funext fun c => toLower_beq (by decide))
  have hhead : ((lowerCase element).head? == some '.') = (element.head? == some '.') := by
    rw [lowerCase, List.head?_map, map_toLower_beq (by decide)]
  have hlast : ((lowerCase element).getLast? == some '.') = (element.getLast? == some '.') := by
    rw [lowerCase, List.getLast?_map, map_toLower_beq (by decide)]
  simp only [elementFault?, hempty, hdots, hhead, hlast, find?_not_allows_lowerCase,
    shortName_lowerCase, isReserved_lowerCase, apply_ite (Option.map PathFault.inLowerCase)]
  cases element.find? fun c => !kind.allows c with
  | some c => simp [PathFault.inLowerCase]
  | none => simp [PathFault.inLowerCase, apply_ite (Option.map PathFault.inLowerCase)]

/-- The first fault of a text is the same in lower case. -/
theorem scanFault?_lowerCase (kind : PathKind) (path : List Char) :
    scanFault? kind (lowerCase path) = (scanFault? kind path).map PathFault.inLowerCase := by
  have hempty : (lowerCase path).isEmpty = path.isEmpty := List.isEmpty_map
  have hlast : ((lowerCase path).getLast? == some '/') = (path.getLast? == some '/') := by
    rw [lowerCase, List.getLast?_map, map_toLower_beq (by decide)]
  have helements : ((lowerCase path).splitOn '/').findSome? (elementFault? kind) =
      ((path.splitOn '/').findSome? (elementFault? kind)).map PathFault.inLowerCase := by
    rw [splitOn_lowerCase (by decide), List.findSome?_map, List.map_findSome?]
    exact congrArg (List.findSome? · _) (funext fun element => elementFault?_lowerCase kind element)
  simp only [scanFault?, hempty, doubled_lowerCase (by decide : '.'.isAlpha = false),
    doubled_lowerCase (by decide : '/'.isAlpha = false), hlast, helements,
    apply_ite (Option.map PathFault.inLowerCase)]
  rfl

/-- A reserved name is refused in whatever case and element it stands. -/
theorem checkPath_ne_ok_of_isDeviceName {kind : PathKind} {path : String} {element : List Char}
    (helement : element ∈ path.toList.splitOn '/') (h : IsDeviceName (shortName element)) :
    checkPath kind path ≠ .ok () := by
  intro hchecked
  have hscan := scanFault?_eq_none_of_checkPath hchecked
  have hreserved := (((scanFault?_eq_none_iff kind path.toList).mp hscan).2 element
    helement).not_reserved
  rw [(isReserved_iff _).mpr h] at hreserved
  contradiction

/-- Import paths and file paths that differ in case alone are both accepted, or refused for the same
fault but for the case of what it names. No case lets a reserved name through. -/
theorem checkPath_ignores_case {kind : PathKind} (hkind : kind ≠ .modulePath) :
    (∀ p q : String, lowerCase p.toList = lowerCase q.toList →
      (checkPath kind p = .ok () ↔ checkPath kind q = .ok ()) ∧
      ∀ fault, FailsWith kind p fault →
        ∃ other, FailsWith kind q other ∧ fault.inLowerCase = other.inLowerCase) ∧
    ∀ path : String, ∀ element ∈ path.toList.splitOn '/', IsDeviceName (shortName element) →
      checkPath kind path ≠ .ok () := by
  refine ⟨?_, fun path element helement => checkPath_ne_ok_of_isDeviceName helement⟩
  intro p q hcase
  have hfaults : (scanFault? kind p.toList).map PathFault.inLowerCase =
      (scanFault? kind q.toList).map PathFault.inLowerCase := by
    rw [← scanFault?_lowerCase, hcase, scanFault?_lowerCase]
  refine ⟨?_, ?_⟩
  · rw [checkPath_eq_ok_iff_scanFault? hkind, checkPath_eq_ok_iff_scanFault? hkind,
      ← Option.map_eq_none_iff, hfaults, Option.map_eq_none_iff]
  · intro fault hfault
    rw [failsWith_iff, pathFault?_eq_scanFault? hkind] at hfault
    rw [hfault, Option.map_some, eq_comm, Option.map_eq_some_iff] at hfaults
    obtain ⟨other, hother, hsame⟩ := hfaults
    refine ⟨other, ?_, hsame.symm⟩
    rw [failsWith_iff, pathFault?_eq_scanFault? hkind, hother]

/-- A reserved name is named as it is written, and a path without one is accepted in any case. -/
theorem checkPath_ignores_case_device :
    lowerCase "docs/LPT1.txt".toList = lowerCase "Docs/lPt1.TXT".toList ∧
      FailsWith .filePath "docs/LPT1.txt" (.reservedName "LPT1") ∧
      FailsWith .filePath "Docs/lPt1.TXT" (.reservedName "lPt1") ∧
      (PathFault.reservedName "LPT1").inLowerCase = (PathFault.reservedName "lPt1").inLowerCase ∧
      checkPath .importPath "docs/LPT10.txt" = .ok () ∧
      checkPath .importPath "Docs/lPt10.TXT" = .ok () := by
  have hcase : lowerCase "docs/LPT1.txt".toList = lowerCase "Docs/lPt1.TXT".toList := by decide
  have hfault : FailsWith .filePath "docs/LPT1.txt" (.reservedName "LPT1") :=
    failsWith_iff.mpr (by decide +kernel)
  have haccepted : checkPath .importPath "docs/LPT10.txt" = .ok () := by decide +kernel
  obtain ⟨hfile, -⟩ := checkPath_ignores_case (by decide : PathKind.filePath ≠ .modulePath)
  obtain ⟨himport, -⟩ := checkPath_ignores_case (by decide : PathKind.importPath ≠ .modulePath)
  obtain ⟨other, hother, hsame⟩ := (hfile _ _ hcase).2 _ hfault
  obtain rfl : other = .reservedName "lPt1" := by
    have hfound : pathFault? .filePath "Docs/lPt1.TXT".toList = some (.reservedName "lPt1") := by
      decide +kernel
    exact Option.some.inj ((failsWith_iff.mp hother).symm.trans hfound)
  exact ⟨hcase, hfault, hother, hsame, haccepted, (himport _ _ (by decide)).1.mp haccepted⟩

end ModuleId
