import Mathlib
import ModuleId.Proofs.Escape.Codec
import ModuleId.Proofs.Path.Grammar

/-! # The shape of escaped text

Escaping puts in `!` and lower-case letters only. Every other character of an escaped form, such as
a slash, a dot or a digit, stands for itself, so the form has the elements, the dots and the ends of
the text that it was written for. -/

namespace ModuleId

open Text

/-! ## Characters -/

theorem isUpper_eq_false_of_mem_escapeText {c : Char} {s : List Char} (h : c ∈ escapeText s) :
    c.isUpper = false := by
  obtain ⟨a, -, hc⟩ := List.mem_flatMap.mp h
  cases ha : a.isUpper with
  | true =>
      rw [escapeChar_of_isUpper ha] at hc
      rcases List.mem_cons.mp hc with rfl | hc
      · rfl
      · rw [List.mem_singleton.mp hc, Char.isUpper_toLower_eq_false]
  | false =>
      rw [escapeChar_of_not_isUpper ha] at hc
      rw [List.mem_singleton.mp hc, ha]

theorem mem_of_mem_escapeText {c : Char} {s : List Char} (h : c ∈ escapeText s) :
    c = '!' ∨ c.isLower = true ∨ c ∈ s := by
  obtain ⟨a, ha, hc⟩ := List.mem_flatMap.mp h
  cases hupper : a.isUpper with
  | true =>
      rw [escapeChar_of_isUpper hupper] at hc
      rcases List.mem_cons.mp hc with hbang | hc
      · exact .inl hbang
      · rw [List.mem_singleton.mp hc]
        exact .inr (.inl (isLower_toLower_of_isUpper hupper))
  | false =>
      rw [escapeChar_of_not_isUpper hupper] at hc
      rw [List.mem_singleton.mp hc]
      exact .inr (.inr ha)

theorem bang_mem_escapeText {c : Char} {s : List Char} (h : c ∈ s) (hupper : c.isUpper = true) :
    '!' ∈ escapeText s := by
  refine List.mem_flatMap.mpr ⟨c, h, ?_⟩
  rw [escapeChar_of_isUpper hupper]
  exact List.mem_cons_self

theorem escapeText_of_no_isUpper {s : List Char} (h : ∀ c ∈ s, c.isUpper = false) :
    escapeText s = s := by
  induction s with
  | nil => rfl
  | cons c s ih =>
      rw [List.forall_mem_cons] at h
      rw [escapeText_cons, escapeChar_of_not_isUpper h.1, ih h.2]
      rfl

theorem escapeText_append (s t : List Char) :
    escapeText (s ++ t) = escapeText s ++ escapeText t :=
  List.flatMap_append

theorem escapeText_eq_nil_iff {s : List Char} : escapeText s = [] ↔ s = [] := by
  cases s with
  | nil => simp [escapeText]
  | cons c s => cases hupper : c.isUpper <;> simp [escapeChar, hupper]

/-! ## Characters that stand for themselves -/

/-- The characters that escaping neither changes nor puts in. -/
def IsKept (c : Char) : Prop :=
  c ≠ '!' ∧ c.isAlpha = false

instance : DecidablePred IsKept := fun _ => inferInstanceAs (Decidable (_ ∧ _))

theorem escapeChar_of_isKept {c : Char} (h : IsKept c) : escapeChar c = [c] :=
  escapeChar_of_not_isUpper (Bool.or_eq_false_iff.mp h.2).1

theorem mem_escapeText_iff {c : Char} (h : IsKept c) {s : List Char} :
    c ∈ escapeText s ↔ c ∈ s := by
  constructor
  · intro hc
    rcases mem_of_mem_escapeText hc with hbang | hlower | hc
    · exact (h.1 hbang).elim
    · rw [(Bool.or_eq_false_iff.mp h.2).2] at hlower
      contradiction
    · exact hc
  · intro hc
    refine List.mem_flatMap.mpr ⟨c, hc, ?_⟩
    rw [escapeChar_of_isKept h]
    exact List.mem_singleton_self c

theorem eq_of_isKept_of_mem_escapeChar {a c : Char} (h : IsKept c) (hc : c ∈ escapeChar a) :
    a = c := by
  have hmem : c ∈ [a] := (mem_escapeText_iff h).mp (by simpa [escapeText] using hc)
  exact (List.mem_singleton.mp hmem).symm

/-- A kept character divides the form where it divides the text. -/
theorem escapeText_eq_append_cons {c : Char} (h : IsKept c) {s before after : List Char}
    (hs : escapeText s = before ++ c :: after) :
    ∃ t u, s = t ++ c :: u ∧ escapeText t = before ∧ escapeText u = after := by
  induction s generalizing before with
  | nil => simp [escapeText] at hs
  | cons a s ih =>
      rw [escapeText_cons] at hs
      -- the kept character comes later, right after the form of `a`, or it is that form
      rcases List.append_eq_append_iff.mp hs with ⟨rest, rfl, hrest⟩ | ⟨rest, hchar, hrest⟩
      · obtain ⟨t, u, rfl, rfl, rfl⟩ := ih hrest
        exact ⟨a :: t, u, rfl, escapeText_cons a t, rfl⟩
      · cases rest with
        | nil =>
            rw [List.append_nil] at hchar
            have hnil : escapeText s = [] ++ c :: after := hrest.symm
            obtain ⟨t, u, rfl, ht, rfl⟩ := ih hnil
            obtain rfl := escapeText_eq_nil_iff.mp ht
            exact ⟨[a], u, rfl, by simp [escapeText, hchar], rfl⟩
        | cons b rest =>
            obtain ⟨rfl, rfl⟩ : c = b ∧ after = rest ++ escapeText s := List.cons.inj hrest
            obtain rfl := eq_of_isKept_of_mem_escapeChar h (by rw [hchar]; simp)
            rw [escapeChar_of_isKept h] at hchar
            have hlength := congrArg List.length hchar
            simp only [List.length_append, List.length_cons, List.length_nil] at hlength
            obtain rfl : before = [] := List.length_eq_zero_iff.mp (by omega)
            obtain rfl : rest = [] := List.length_eq_zero_iff.mp (by omega)
            exact ⟨[], s, rfl, rfl, rfl⟩

theorem getLast?_escapeText_eq_some_iff {c : Char} (h : IsKept c) {s : List Char} :
    (escapeText s).getLast? = some c ↔ s.getLast? = some c := by
  constructor
  · intro hs
    obtain ⟨before, hbefore⟩ := List.getLast?_eq_some_iff.mp hs
    obtain ⟨t, u, rfl, -, hu⟩ := escapeText_eq_append_cons h hbefore
    rw [escapeText_eq_nil_iff.mp hu]
    exact List.getLast?_concat
  · intro hs
    obtain ⟨t, rfl⟩ := List.getLast?_eq_some_iff.mp hs
    rw [escapeText_append, escapeText_cons, escapeChar_of_isKept h]
    exact List.getLast?_concat

/-- Escaping doubles no kept character. -/
theorem doubled_of_doubled_escapeText {c : Char} (h : IsKept c) {s : List Char}
    (hs : [c, c] <:+: escapeText s) : [c, c] <:+: s := by
  obtain ⟨before, after, hs⟩ := hs
  obtain ⟨t, u, rfl, -, hu⟩ : ∃ t u, s = t ++ c :: u ∧ escapeText t = before ∧
      escapeText u = [] ++ c :: after :=
    escapeText_eq_append_cons h (by simpa using hs.symm)
  obtain ⟨v, w, rfl, hv, -⟩ := escapeText_eq_append_cons h hu
  obtain rfl := escapeText_eq_nil_iff.mp hv
  exact ⟨t, w, by simp⟩

theorem cut_escapeText {c : Char} (h : IsKept c) (s : List Char) :
    cut c (escapeText s) = (escapeText (cut c s).1, (cut c s).2.map escapeText) := by
  obtain ⟨head, rest, hs⟩ : ∃ head rest, cut c s = (head, rest) := ⟨_, _, rfl⟩
  rw [hs]
  obtain ⟨hhead, rfl⟩ := cut_eq_iff.mp hs
  refine cut_eq_iff.mpr ⟨(mem_escapeText_iff h).not.mpr hhead, ?_⟩
  rw [escapeText_append]
  cases rest with
  | none => rfl
  | some rest => rw [behind, escapeText_cons, escapeChar_of_isKept h]; rfl

theorem escapeText_intercalate {c : Char} (h : IsKept c) (pieces : List (List Char)) :
    escapeText ([c].intercalate pieces) = [c].intercalate (pieces.map escapeText) := by
  induction pieces with
  | nil => rfl
  | cons piece pieces ih =>
      cases pieces with
      | nil => simp
      | cons next pieces =>
          rw [List.intercalate_cons_cons, escapeText_append, escapeText_append, ih]
          simp [List.intercalate_cons_cons, escapeText, escapeChar_of_isKept h]

/-- The pieces of the form are the forms of the pieces. -/
theorem splitOn_escapeText {c : Char} (h : IsKept c) (s : List Char) :
    (escapeText s).splitOn c = (s.splitOn c).map escapeText := by
  have hs : escapeText s = [c].intercalate ((s.splitOn c).map escapeText) := by
    rw [← escapeText_intercalate h, List.intercalate_splitOn]
  rw [hs]
  refine List.splitOn_intercalate c ?_ (by simp [List.splitOn_ne_nil])
  intro piece hpiece hc
  obtain ⟨t, ht, rfl⟩ := List.mem_map.mp hpiece
  exact not_mem_of_mem_splitOn ht ((mem_escapeText_iff h).mp hc)

/-! ## Elements -/

/-- File paths allow every character that the other kinds of path allow. -/
theorem allows_filePath_of_allows {kind : PathKind} {c : Char} (h : kind.allows c = true) :
    PathKind.filePath.allows c = true := by
  have hother : (c.isAlphanum || importPunctuation.contains c) = true →
      PathKind.filePath.allows c = true := by
    intro hc
    rcases Bool.or_eq_true_iff.mp hc with hc | hc
    · simp [PathKind.allows, isAscii_of_isAlphanum hc, hc]
    · have hmem : c ∈ importPunctuation := by simpa using hc
      fin_cases hmem <;> decide
  cases kind with
  | filePath => exact h
  | modulePath => exact hother h
  | importPath => exact hother h

theorem shortName_escapeText (element : List Char) :
    shortName (escapeText element) = escapeText (shortName element) :=
  congrArg Prod.fst (cut_escapeText (by decide : IsKept '.') element)

/-- A reserved name has no escaped form: it would have to hold `!` or to be reserved before. -/
theorem isReserved_escapeText {short : List Char} (h : isReserved short = false) :
    isReserved (escapeText short) = false := by
  by_cases hupper : ∃ c ∈ short, c.isUpper = true
  · obtain ⟨c, hc, hupper⟩ := hupper
    have hbang : '!' ∈ upperCase (escapeText short) :=
      List.mem_map.mpr ⟨'!', bang_mem_escapeText hc hupper, rfl⟩
    have hnames : ∀ name ∈ reservedNames, '!' ∉ name.toList := by decide
    rw [isReserved, List.any_eq_false]
    intro name hname heq
    exact hnames name hname (beq_iff_eq.mp heq ▸ hbang)
  · have hkept : escapeText short = short := by
      refine escapeText_of_no_isUpper fun c hc => ?_
      simpa using fun hc' => hupper ⟨c, hc, hc'⟩
    rw [hkept, h]

/-- The escaped form of an element of any kind is a file name. -/
theorem IsElement.escapeText {kind : PathKind} {element : List Char} (h : IsElement kind element) :
    IsElement .filePath (escapeText element) where
  ne_nil := escapeText_eq_nil_iff.not.mpr h.ne_nil
  head := fun _ => rfl
  last := (getLast?_escapeText_eq_some_iff (by decide)).not.mpr h.last
  allowed := by
    intro c hc
    rcases mem_of_mem_escapeText hc with rfl | hlower | hc
    · decide
    · have halphanum : c.isAlphanum = true := by simp [Char.isAlphanum, Char.isAlpha, hlower]
      simp [PathKind.allows, isAscii_of_isAlphanum halphanum, halphanum]
    · exact allows_filePath_of_allows (h.allowed c hc)
  not_reserved := by
    rw [shortName_escapeText]
    exact isReserved_escapeText h.not_reserved

/-- The escaped form of a path of any kind is a file path. -/
theorem scanFault?_escapeText {kind : PathKind} {path : List Char}
    (h : scanFault? kind path = none) : scanFault? .filePath (escapeText path) = none := by
  rw [scanFault?_eq_none_iff] at h ⊢
  obtain ⟨hdots, helements⟩ := h
  refine ⟨fun hdoubled => hdots (doubled_of_doubled_escapeText (by decide) hdoubled), ?_⟩
  intro element helement
  rw [splitOn_escapeText (by decide)] at helement
  obtain ⟨plain, hplain, rfl⟩ := List.mem_map.mp helement
  exact (helements plain hplain).escapeText

end ModuleId
