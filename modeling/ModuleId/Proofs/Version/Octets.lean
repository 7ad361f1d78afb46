import Mathlib.Data.List.Basic
import ModuleId.Proofs.Order.Canonical
import ModuleId.Proofs.Text.Octets

/-! # Versions are cut by octets

The parts of a version that is read are texts, and two of the functions on versions cut such a text
again: the major version behind its numeral, and a prerelease behind its marker. A version begins
with its major version, and a prerelease that is not empty with its marker, so both cuts are between
characters. -/

namespace ModuleId

open Text

/-! ## The major version -/

/-- The major version that a version begins with, cut behind its numeral. -/
def majorTextByOctets? (version : List Char) : Option (Option (List Char)) :=
  match Version.parse? version with
  | none => some none
  | some v => (cutAt? (1 + (octets v.major.val).length) version).map fun (major, _) => some major

theorem Version.exists_numerals_eq (v : Version) : ∃ others, v.numerals = v.major :: others := by
  cases v <;> exact ⟨_, rfl⟩

/-- A version begins with its major version. -/
theorem Version.exists_text_eq (v : Version) : ∃ rest, v.text = v.majorText ++ rest := by
  obtain ⟨others, hnumerals⟩ := v.exists_numerals_eq
  rw [text_eq, coreText, majorText, hnumerals]
  cases others with
  | nil => exact ⟨v.prereleaseText ++ v.buildText, by simp⟩
  | cons next others =>
      rw [List.map_cons, List.map_cons, List.intercalate_cons_cons, List.append_assoc,
        List.append_assoc, List.append_assoc]
      exact ⟨_, rfl⟩

/-- The cut behind the numeral always has an answer, which is the major version. -/
theorem majorTextByOctets?_eq (version : List Char) :
    majorTextByOctets? version = some ((Version.parse? version).map Version.majorText) := by
  cases hv : Version.parse? version with
  | none => simp [majorTextByOctets?, hv]
  | some v =>
      obtain ⟨rest, htext⟩ := v.exists_text_eq
      have hversion : version = v.majorText ++ rest := by
        rw [← htext]
        exact Version.parse?_eq_some_iff.mp hv
      have hlength : (octets v.majorText).length = 1 + (octets v.major.val).length := by
        rw [Version.majorText, octets_cons, List.length_append,
          utf8EncodeChar_of_isAscii (by decide)]
        rfl
      have hcut := cutAt?_octets v.majorText rest
      rw [hlength, ← hversion] at hcut
      simp only [majorTextByOctets?, hv, hcut, Option.map_some]

/-! ## Prereleases -/

/-- Whether an identifier, as a text, is a numeral. -/
def isNumericText (identifier : List Char) : Bool :=
  !identifier.isEmpty && identifier.all Char.isDigit

/-- The order of two identifiers that differ. -/
def identifierTextOrder (a b : List Char) : Ordering :=
  match isNumericText a, isNumericText b with
  | true, false => .lt
  | false, true => .gt
  | true, true => numeralOrder a b
  | false, false => compare a b

/-- The order of the first identifiers that differ; if there are none, the longer list is the
greater. -/
def identifiersOrder : List (List Char) → List (List Char) → Ordering
  | a :: as, b :: bs => if a == b then identifiersOrder as bs else identifierTextOrder a b
  | as, bs => compare as.length bs.length

/-- The identifiers of a prerelease, whose marker is cut off. -/
def identifiersByOctets? (prerelease : List Char) : Option (List (List Char)) :=
  (cutAt? 1 prerelease).map fun (_, identifiers) => identifiers.splitOn '.'

/-- The order of two prereleases, which may be empty, by octets. -/
def prereleaseOrderByOctets? (x y : List Char) : Option Ordering := do
  if x == y then return .eq
  if x.isEmpty then return .gt
  if y.isEmpty then return .lt
  return identifiersOrder (← identifiersByOctets? x) (← identifiersByOctets? y)

theorem identifierTextOrder_val (a b : PrereleaseIdentifier) :
    identifierTextOrder a.val b.val = identifierOrder a b := by
  have hnumeric (c : PrereleaseIdentifier) : isNumericText c.val = isNumeric c.val := by
    simp [isNumericText, isNumeric, c.property.1.1]
  rw [identifierTextOrder, identifierOrder, hnumeric, hnumeric]
  cases isNumeric a.val <;> cases isNumeric b.val <;> rfl

theorem identifiersOrder_map_val (as bs : List PrereleaseIdentifier) :
    identifiersOrder (as.map (·.val)) (bs.map (·.val)) = as.compareLex identifierOrder bs := by
  induction as generalizing bs with
  | nil =>
      cases bs with
      | nil => rfl
      | cons b bs => exact Nat.compare_eq_lt.mpr (Nat.succ_pos _)
  | cons a as ih =>
      cases bs with
      | nil => exact Nat.compare_eq_gt.mpr (Nat.succ_pos _)
      | cons b bs =>
          rw [List.map_cons, List.map_cons, identifiersOrder, List.compareLex_cons_cons, ih,
            identifierTextOrder_val]
          by_cases h : a = b
          · have hself : identifierOrder b b = .eq := Std.ReflCmp.compare_self
            rw [h, beq_self_eq_true, if_pos rfl, hself, Ordering.eq_then]
          · have hval : (a.val == b.val) = false := by
              rw [beq_eq_false_iff_ne]
              exact fun heq => h (Subtype.ext heq)
            rw [hval, if_neg Bool.false_ne_true]
            cases horder : identifierOrder a b with
            | lt => rfl
            | eq => exact (h (Std.LawfulEqCmp.eq_of_compare horder)).elim
            | gt => rfl

section Marked

variable {as bs : List PrereleaseIdentifier}

/-- The marker is one octet, so what is behind it are the identifiers with dots between them. -/
theorem identifiersByOctets?_marked (h : as ≠ []) :
    identifiersByOctets? (Version.marked '-' (as.map (·.val))) = some (as.map (·.val)) := by
  obtain ⟨first, rest, rfl⟩ := List.exists_cons_of_ne_nil h
  have hcut : cutAt? 1 (Version.marked '-' ((first :: rest).map (·.val))) =
      some (['-'], ['.'].intercalate ((first :: rest).map (·.val))) := cutAt?_octets ['-'] _
  have hdots := forall_mem_map_val (fun _ => dot_not_mem_of_isPrereleaseIdentifier) (first :: rest)
  rw [identifiersByOctets?, hcut]
  exact congrArg some (List.splitOn_intercalate '.' hdots (by simp))

theorem marked_map_val_eq_nil_iff : Version.marked '-' (as.map (·.val)) = [] ↔ as = [] := by
  cases as <;> simp [Version.marked]

/-- Prereleases that are written alike hold the same identifiers. -/
theorem marked_map_val_injective
    (h : Version.marked '-' (as.map (·.val)) = Version.marked '-' (bs.map (·.val))) : as = bs := by
  by_cases has : as = []
  · rw [marked_map_val_eq_nil_iff.mpr has, eq_comm, marked_map_val_eq_nil_iff] at h
    rw [has, h]
  · have hbs : bs ≠ [] := by
      rwa [Ne, ← marked_map_val_eq_nil_iff, ← h, marked_map_val_eq_nil_iff]
    have hmap := congrArg identifiersByOctets? h
    rw [identifiersByOctets?_marked has, identifiersByOctets?_marked hbs, Option.some.injEq] at hmap
    exact List.map_injective_iff.mpr Subtype.val_injective hmap

end Marked

/-- The cuts behind the markers always have an answer, and the order is that of the identifiers. -/
theorem prereleaseOrderByOctets?_eq (as bs : List PrereleaseIdentifier) :
    prereleaseOrderByOctets? (Version.marked '-' (as.map (·.val)))
      (Version.marked '-' (bs.map (·.val))) = some (prereleaseOrder as bs) := by
  by_cases heq : as = bs
  · have hself : prereleaseOrder bs bs = .eq := Std.ReflCmp.compare_self
    simp only [prereleaseOrderByOctets?, heq, beq_self_eq_true, if_true, hself, Option.pure_def]
  have hdiffer : (Version.marked '-' (as.map (·.val)) == Version.marked '-' (bs.map (·.val))) =
      false := by
    rw [beq_eq_false_iff_ne]
    exact fun htext => heq (marked_map_val_injective htext)
  have hempty (ids : List PrereleaseIdentifier) :
      (Version.marked '-' (ids.map (·.val))).isEmpty = ids.isEmpty := by
    rw [Bool.eq_iff_iff, List.isEmpty_iff, List.isEmpty_iff, marked_map_val_eq_nil_iff]
  simp only [prereleaseOrderByOctets?, hdiffer, hempty]
  cases as with
  | nil =>
      cases bs with
      | nil => exact (heq rfl).elim
      | cons b bs => rfl
  | cons a as =>
      cases bs with
      | nil => rfl
      | cons b bs =>
          rw [identifiersByOctets?_marked (List.cons_ne_nil a as),
            identifiersByOctets?_marked (List.cons_ne_nil b bs), prereleaseOrder,
            ← identifiersOrder_map_val]
          rfl

/-! ## Precedence -/

/-- An ordering that decides, or else the next one, which is only then asked for. -/
def thenTry? (first : Ordering) (next : Option Ordering) : Option Ordering :=
  if first == .eq then next else some first

@[simp] theorem thenTry?_some (first next : Ordering) :
    thenTry? first (some next) = some (first.then next) := by
  cases first <;> rfl

/-- The precedence of texts, with the prereleases compared by octets. -/
def textPrecedenceByOctets? (a b : List Char) : Option Ordering :=
  match Version.parse? a, Version.parse? b with
  | none, none => some .eq
  | none, some _ => some .lt
  | some _, none => some .gt
  | some v, some w =>
      thenTry? (numeralOrder v.major.val w.major.val) <|
        thenTry? (numeralOrder v.minor.val w.minor.val) <|
          thenTry? (numeralOrder v.patch.val w.patch.val) <|
            prereleaseOrderByOctets? v.prereleaseText w.prereleaseText

theorem textPrecedenceByOctets?_eq (a b : List Char) :
    textPrecedenceByOctets? a b = some (textPrecedence a b) := by
  unfold textPrecedenceByOctets? textPrecedence
  cases Version.parse? a with
  | none => cases Version.parse? b <;> rfl
  | some v =>
      cases Version.parse? b with
      | none => rfl
      | some w =>
          simp only [Version.prereleaseText, prereleaseOrderByOctets?_eq, thenTry?_some,
            Version.precedence]

def compareVersionsByOctets? (a b : String) : Option Ordering :=
  textPrecedenceByOctets? a.toList b.toList

theorem compareVersionsByOctets?_eq (a b : String) :
    compareVersionsByOctets? a b = some (compareVersions a b) :=
  textPrecedenceByOctets?_eq a.toList b.toList

end ModuleId
