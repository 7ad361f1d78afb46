import ModuleId.Path.Check

/-! # What the path checks accept

A check reports the first rule that is broken. It accepts exactly the texts that keep all of its
rules, whatever the order in which the rules are tried. -/

namespace ModuleId

open Text

/-- A list of rules reports nothing when its first rule is kept and the others report nothing. -/
theorem ite_some_eq_none_iff {α : Type} {p : Prop} [Decidable p] {a : α} {o : Option α} :
    (if p then some a else o) = none ↔ ¬ p ∧ o = none := by
  split <;> simp [*]

/-! ## Elements -/

/-- The rules of an element. One of dots alone breaks the rule about the last character. -/
structure IsElement (kind : PathKind) (element : List Char) : Prop where
  ne_nil : element ≠ []
  head : element.head? = some '.' → kind.allowsLeadingDot = true
  last : element.getLast? ≠ some '.'
  allowed : ∀ c ∈ element, kind.allows c = true
  not_reserved : isReserved (shortName element) = false

theorem getLast?_of_all_dots {element : List Char} (hne : element ≠ [])
    (h : element.all (· == '.') = true) : element.getLast? = some '.' := by
  rw [List.getLast?_eq_some_getLast hne]
  exact congrArg some (by simpa using List.all_eq_true.mp h _ (List.getLast_mem hne))

theorem elementFault?_eq_none_iff (kind : PathKind) (element : List Char) :
    elementFault? kind element = none ↔ IsElement kind element := by
  simp only [elementFault?, ite_some_eq_none_iff, List.isEmpty_iff, Bool.and_eq_true, beq_iff_eq,
    Bool.not_eq_true', not_and, Bool.not_eq_false]
  cases hfind : element.find? fun c => !kind.allows c with
  | some c =>
      have hc := List.find?_some hfind
      constructor
      · intro h
        simp at h
      · intro h
        simp [h.allowed c (List.mem_of_find?_eq_some hfind)] at hc
  | none =>
      have hallowed : ∀ c ∈ element, kind.allows c = true := by
        simpa using List.find?_eq_none.mp hfind
      constructor
      · intro h
        obtain ⟨hne, -, hhead, hlast, hreserved⟩ := h
        exact ⟨hne, hhead, hlast, hallowed, by simpa using hreserved⟩
      · intro h
        have hdots : ¬ element.all (· == '.') = true :=
          fun hall => h.last (getLast?_of_all_dots h.ne_nil hall)
        exact ⟨h.ne_nil, hdots, h.head, h.last, by simp [h.not_reserved]⟩

/-- No device has a name that begins with `v`. -/
theorem isReserved_shortName_cons_v (s : List Char) :
    isReserved (shortName ('v' :: s)) = false := by
  have hnames : ∀ name ∈ reservedNames, name.toList.head? ≠ some 'V' := by decide
  rw [isReserved, List.any_eq_false]
  intro name hname heq
  refine hnames name hname ?_
  rw [beq_iff_eq.mp heq]
  rfl

/-! ## Paths -/

/-- Apart from doubled dots the scan asks nothing of a path but of its elements: a slash that is
doubled or stands at an end makes an empty element. -/
theorem scanFault?_eq_none_iff (kind : PathKind) (path : List Char) :
    scanFault? kind path = none ↔
      ¬ ['.', '.'] <:+: path ∧ ∀ element ∈ path.splitOn '/', IsElement kind element := by
  simp only [scanFault?, ite_some_eq_none_iff, doubled_iff, List.isEmpty_iff, beq_iff_eq,
    List.findSome?_eq_none_iff, elementFault?_eq_none_iff]
  constructor
  · intro h
    obtain ⟨-, hdots, -, -, helements⟩ := h
    exact ⟨hdots, helements⟩
  · intro h
    obtain ⟨hdots, helements⟩ := h
    have hnil : [] ∉ path.splitOn '/' := fun hmem => (helements [] hmem).ne_nil rfl
    rw [nil_mem_splitOn_iff, not_or, not_or, not_or] at hnil
    obtain ⟨hne, -, hlast, hslashes⟩ := hnil
    exact ⟨hne, hdots, hslashes, hlast, helements⟩

/-- A slash leaves nothing to check but the paths on its two sides. -/
theorem scanFault?_append_slash_iff (kind : PathKind) (s t : List Char) :
    scanFault? kind (s ++ '/' :: t) = none ↔
      scanFault? kind s = none ∧ scanFault? kind t = none := by
  simp only [scanFault?_eq_none_iff, doubled_append_cons_iff (by decide : '/' ≠ '.'),
    List.splitOn_append_cons_self, List.forall_mem_append, not_or]
  exact and_and_and_comm

/-- A path of one element. -/
theorem scanFault?_of_isElement {kind : PathKind} {element : List Char}
    (h : IsElement kind element) (hslash : '/' ∉ element) (hdots : ¬ ['.', '.'] <:+: element) :
    scanFault? kind element = none := by
  rw [scanFault?_eq_none_iff, List.splitOn_eq_singleton hslash]
  exact ⟨hdots, by simpa using h⟩

/-- Every character of a scanned path is a slash or allowed in its elements. -/
theorem eq_slash_or_allows_of_scanFault?_eq_none {kind : PathKind} {path : List Char}
    (h : scanFault? kind path = none) {c : Char} (hc : c ∈ path) :
    c = '/' ∨ kind.allows c = true := by
  rcases eq_or_exists_mem_splitOn '/' hc with hslash | ⟨element, helement, hc⟩
  · exact .inl hslash
  · exact .inr ((((scanFault?_eq_none_iff kind path).mp h).2 element helement).allowed c hc)

/-- A host that breaks no rule holds allowed characters only. -/
theorem allowedInHost_of_hostFault? {host : List Char} (h : hostFault? host = none) :
    ∀ c ∈ host, allowedInHost c = true := by
  simp only [hostFault?, ite_some_eq_none_iff, Option.map_eq_none_iff] at h
  obtain ⟨-, -, -, hfind⟩ := h
  simpa using List.find?_eq_none.mp hfind

theorem checkPath_eq_ok_iff (kind : PathKind) (path : String) :
    checkPath kind path = .ok () ↔ pathFault? kind path.toList = none := by
  unfold checkPath
  cases pathFault? kind path.toList <;> simp

/-- A refused path is reported with its kind, its text and the first rule that it breaks. -/
theorem checkPath_eq_error_iff {kind : PathKind} {path : String} {cause : ModuleError} :
    checkPath kind path = .error cause ↔
      ∃ fault, pathFault? kind path.toList = some fault ∧ cause = .malformedPath kind path fault := by
  unfold checkPath
  cases pathFault? kind path.toList <;> simp [eq_comm]

theorem scanFault?_eq_none_of_checkPath {kind : PathKind} {path : String}
    (h : checkPath kind path = .ok ()) : scanFault? kind path.toList = none := by
  rw [checkPath_eq_ok_iff] at h
  unfold pathFault? at h
  exact (Option.or_eq_none_iff.mp h).1

theorem ne_empty_of_checkPath {kind : PathKind} {path : String}
    (h : checkPath kind path = .ok ()) : path ≠ "" := by
  intro hempty
  have hscan := scanFault?_eq_none_of_checkPath h
  rw [hempty] at hscan
  cases kind <;> exact absurd hscan (by decide)

theorem at_not_mem_of_checkPath {path : String} (h : checkPath .modulePath path = .ok ()) :
    '@' ∉ path.toList := by
  intro hmem
  rcases eq_slash_or_allows_of_scanFault?_eq_none (scanFault?_eq_none_of_checkPath h) hmem
    with hslash | hallowed
  · simp at hslash
  · exact absurd hallowed (by decide)

/-- Only module paths have rules beyond those of the scan. -/
theorem pathFault?_eq_scanFault? {kind : PathKind} (hkind : kind ≠ .modulePath)
    (path : List Char) : pathFault? kind path = scanFault? kind path := by
  cases kind with
  | modulePath => contradiction
  | importPath => exact Option.or_none
  | filePath => exact Option.or_none

theorem checkPath_eq_ok_iff_scanFault? {kind : PathKind} (hkind : kind ≠ .modulePath)
    (path : String) : checkPath kind path = .ok () ↔ scanFault? kind path.toList = none := by
  rw [checkPath_eq_ok_iff, pathFault?_eq_scanFault? hkind]

theorem checkPath_modulePath_eq_ok_iff (path : String) :
    checkPath .modulePath path = .ok () ↔
      scanFault? .modulePath path.toList = none ∧ hostFault? (host path.toList) = none ∧
        (cutMajor? path.toList).isSome = true := by
  simp [checkPath_eq_ok_iff, pathFault?, suffixFault?, Option.or_eq_none_iff,
    Option.ne_none_iff_isSome]

end ModuleId
