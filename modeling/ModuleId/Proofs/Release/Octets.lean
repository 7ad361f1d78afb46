import ModuleId.Escape
import ModuleId.Proofs.Escape.RoundTrip
import ModuleId.Proofs.Path.Octets
import ModuleId.Proofs.Release.Wanted
import ModuleId.Proofs.Version.Octets
import ModuleId.Release.Order

/-! # No access by octets is refused

What the functions on paths, versions and releases do with octets and positions, put together. The
version that a mismatch asks for is cut behind the first octet of the suffix; that this is right
for a suffix cannot be seen there, but every suffix that is split off allows it. -/

namespace ModuleId

open Text

/-! ## Suffixes -/

/-- Whether the text of a version goes with a suffix, by octets. -/
def matchesSuffixByOctets? (version suffix : List Char) : Option Bool := do
  let suffix := stableSuffix suffix
  if untagged.isPrefixOf version && suffix == ['.', 'v', '1'] then return true
  match ← majorTextByOctets? version with
  | none => return false
  | some major =>
      if suffix.isEmpty then
        let build := ((Version.parse? version).map Version.buildText).getD []
        return major == ['v', '0'] || major == ['v', '1'] || build == "+incompatible".toList
      if suffix.head? == some '/' || suffix.head? == some '.' then
        let (_, named) ← cutAt? 1 suffix
        return named == major
      return false

/-- What a suffix asks of a version, by octets. -/
def wantedMajorByOctets? (suffix : List Char) : Option String :=
  if suffix.isEmpty then some "v0 or v1"
  else (cutAt? 1 (cutUnstable suffix).1).map fun (_, major) => String.ofList major

/-- A suffix that begins with a slash or a dot is cut behind it, and no other suffix is cut. -/
theorem matchesSuffixByOctets?_eq (version suffix : List Char) :
    matchesSuffixByOctets? version suffix = some (matchesSuffix version suffix) := by
  simp only [matchesSuffixByOctets?, matchesSuffix, majorTextByOctets?_eq]
  generalize stableSuffix suffix = suffix
  split
  · rfl
  cases hv : Version.parse? version with
  | none => rfl
  | some v =>
      cases suffix with
      | nil =>
          have hbuild : (v.buildText == "+incompatible".toList) = v.isIncompatible := by
            rw [Bool.eq_iff_iff, beq_iff_eq, v.isIncompatible_iff]
          simp [Version.goesWith, ← hbuild]
      | cons mark named =>
          by_cases hmark : mark = '/' ∨ mark = '.'
          · have hascii : isAscii mark = true := by
              rcases hmark with rfl | rfl <;> decide
            have hcut := cutAt?_cons hascii named
            simp [Version.goesWith, hmark, hcut]
          · simp [Version.goesWith, hmark]

/-- What is asked for is there to be cut when an ASCII character begins the suffix. -/
theorem wantedMajorByOctets?_eq {suffix : List Char}
    (h : suffix = [] ∨ ∃ mark major, isAscii mark = true ∧ (cutUnstable suffix).1 = mark :: major) :
    wantedMajorByOctets? suffix = some (wantedMajor suffix) := by
  cases suffix with
  | nil => rfl
  | cons c rest =>
      obtain ⟨mark, major, hmark, hcut⟩ := h.resolve_left (List.cons_ne_nil c rest)
      simp [wantedMajorByOctets?, wantedMajor, hcut, cutAt?_cons hmark]

/-- A suffix that is nothing but the mark has nothing left to cut. -/
example : wantedMajorByOctets? unstableMark.toList = none := by
  decide

/-- A suffix that is split off is empty, or something stands behind its first character, which is
ASCII, also without the mark for unstable releases. -/
theorem pathSuffix_cases (path : List Char) :
    pathSuffix path = [] ∨
      ∃ mark major, isAscii mark = true ∧ (cutUnstable (pathSuffix path)).1 = mark :: major := by
  cases hcut : cutMajor? path with
  | none => exact .inl (by rw [pathSuffix, hcut]; rfl)
  | some split =>
      obtain ⟨stem, suffix⟩ := split
      have hsuffix : pathSuffix path = suffix := by rw [pathSuffix, hcut]; rfl
      rw [hsuffix]
      rcases suffix_of_cutMajor? hcut with hempty | rfl | ⟨number, hnames⟩
      · exact .inl hempty
      · exact .inr ⟨'.', ['v'], by decide, by decide⟩
      · obtain ⟨mark, hmark, hstable, -⟩ := hnames.stableSuffix_eq
        exact .inr ⟨mark, _, by rcases hmark with rfl | rfl <;> decide, hstable⟩

/-! ## Checks -/

/-- The first rule that a module path breaks, by octets. The path is cut only when no other rule is
broken. -/
def modulePathFaultByOctets? (path : List Char) : Option (Option PathFault) :=
  match (scanFault? .modulePath path).or (hostFault? (host path)) with
  | some fault => some (some fault)
  | none => do
      let cut ← cutMajorByOctets? path
      return if cut.isNone then some .invalidVersionSuffix else none

def checkModulePathByOctets? (path : String) : Option (Except ModuleError Unit) := do
  match ← modulePathFaultByOctets? path.toList with
  | none => return .ok ()
  | some fault => return .error (.malformedPath .modulePath path fault)

/-- The check of a release, by octets. What a suffix asks for is cut only for a mismatch. -/
def checkReleaseByOctets? (path version : String) : Option (Except ModuleError Unit) := do
  match ← checkModulePathByOctets? path with
  | .error cause => return .error cause
  | .ok () =>
      if (Version.parse? version.toList).isNone then return .error (.malformedVersion version)
      let suffix := ((← cutMajorByOctets? path.toList).map (·.2)).getD []
      if ← matchesSuffixByOctets? version.toList suffix then return .ok ()
      return .error (.mismatchedMajor path version (← wantedMajorByOctets? suffix))

theorem modulePathFaultByOctets?_eq (path : List Char) :
    modulePathFaultByOctets? path = some (pathFault? .modulePath path) := by
  rw [modulePathFaultByOctets?, pathFault?, ← Option.or_assoc, cutMajorByOctets?_eq]
  cases (scanFault? .modulePath path).or (hostFault? (host path)) <;> rfl

theorem checkModulePathByOctets?_eq (path : String) :
    checkModulePathByOctets? path = some (checkPath .modulePath path) := by
  rw [checkModulePathByOctets?, modulePathFaultByOctets?_eq, checkPath]
  cases pathFault? .modulePath path.toList <;> rfl

theorem checkReleaseByOctets?_eq (path version : String) :
    checkReleaseByOctets? path version = some (checkRelease path version) := by
  have hsuffix : ((cutMajor? path.toList).map (·.2)).getD [] = pathSuffix path.toList := rfl
  have hwanted := wantedMajorByOctets?_eq (pathSuffix_cases path.toList)
  simp only [checkReleaseByOctets?, checkModulePathByOctets?_eq, cutMajorByOctets?_eq,
    matchesSuffixByOctets?_eq, hsuffix, hwanted, checkRelease, Option.bind_eq_bind,
    Option.bind_some, Option.pure_def]
  cases checkPath .modulePath path with
  | error cause => rfl
  | ok =>
      simp only [bind, Except.bind]
      split
      · rfl
      · split <;> rfl

/-! ## The order of releases -/

/-- A version before its tag and the tag, cut at the first octet that is a slash. -/
def cutTagByOctets? (version : List Char) : Option (List Char × List Char) :=
  match (octets version).findIdx? (octetIn (· == '/')) with
  | some position => cutAt? position version
  | none => some (version, [])

/-- The precedence of versions before their tags, which is looked at only where they differ. -/
def untaggedOrderByOctets? (a b : List Char) : Option Ordering :=
  if a == b then some .eq else textPrecedenceByOctets? a b

/-- The order of releases, by octets. Each key is looked at only when those before it are equal. -/
def Release.orderByOctets? (a b : Release) : Option Ordering :=
  thenTry? (compare a.path b.path) <| do
    let (untaggedA, tagA) ← cutTagByOctets? a.version.toList
    let (untaggedB, tagB) ← cutTagByOctets? b.version.toList
    thenTry? (← untaggedOrderByOctets? untaggedA untaggedB) <|
      thenTry? (compare tagA tagB) <| some (compare a.version b.version)

theorem cutTagByOctets?_eq (version : List Char) :
    cutTagByOctets? version =
      some (version.takeWhile (· != '/'), version.dropWhile (· != '/')) := by
  have hbefore : ∀ c ∈ version.takeWhile (· != '/'), (c == '/') = false := by
    intro c hc
    simpa using List.all_eq_true.mp List.all_takeWhile c hc
  have hclass := isAsciiClass_beq (by decide : isAscii '/' = true)
  have hversion := List.takeWhile_append_dropWhile (p := (· != '/')) (l := version)
  cases hafter : version.dropWhile (· != '/') with
  | nil =>
      have hnone := findIdx?_octets hclass hbefore
      rw [hafter, List.append_nil] at hversion
      rw [hversion] at hnone ⊢
      rw [cutTagByOctets?, hnone]
  | cons c after =>
      have hc : (c == '/') = true := by
        have hhead := List.head?_dropWhile_not (· != '/') version
        simpa [hafter] using hhead
      have hsome := findIdx?_octets_append hclass hbefore hc after
      rw [← hafter, hversion] at hsome
      have hcut := cutAt?_octets (version.takeWhile (· != '/')) (version.dropWhile (· != '/'))
      rw [hversion, hafter] at hcut
      rw [cutTagByOctets?, hsome]
      exact hcut

/-- Equal texts have equal precedence, so it makes no difference that they are not compared. -/
theorem untaggedOrderByOctets?_eq (a b : List Char) :
    untaggedOrderByOctets? a b = some (textPrecedence a b) := by
  rw [untaggedOrderByOctets?]
  split
  case isTrue heq =>
      rw [eq_of_beq heq]
      exact congrArg some Std.ReflCmp.compare_self.symm
  case isFalse => exact textPrecedenceByOctets?_eq a b

theorem Release.orderByOctets?_eq (a b : Release) : a.orderByOctets? b = some (order a b) := by
  have htag (r : Release) :
      cutTagByOctets? r.version.toList = some (r.untaggedVersion, r.tag) :=
    cutTagByOctets?_eq r.version.toList
  simp only [orderByOctets?, htag, untaggedOrderByOctets?_eq, thenTry?_some, Option.bind_eq_bind,
    Option.bind_some]
  rfl

/-! ## Escaped forms -/

/-- Escaping of a text that is checked first. -/
def escapeByOctets? (checked : Option (Except ModuleError Unit)) (s : String) :
    Option (Except ModuleError String) := do
  match ← checked with
  | .error cause => return .error cause
  | .ok () => return escapeChecked s

/-- Unescaping when an octet may be looked at to answer the text behind the form. -/
def unescapeByOctets? (invalid : ModuleError)
    (answer : String → Option (Except ModuleError String)) (form : String) :
    Option (Except ModuleError String) :=
  match unescapeText? form.toList with
  | none => some (.error invalid)
  | some s => answer (String.ofList s)

def escapePathByOctets? (path : String) : Option (Except ModuleError String) :=
  escapeByOctets? (checkModulePathByOctets? path) path

/-- A version is checked character by character. -/
def escapeVersionByOctets? (version : String) : Option (Except ModuleError String) :=
  escapeByOctets?
    (some <|
      if (elementFault? .filePath version.toList).isSome || version.toList.contains '!' then
        .error (.disallowedVersion version)
      else .ok ())
    version

def unescapePathByOctets? (form : String) : Option (Except ModuleError String) :=
  unescapeByOctets? (.invalidEscapedPath form)
    (fun path => do
      match ← checkModulePathByOctets? path with
      | .ok () => return .ok path
      | .error cause => return .error (.rejectedEscapedPath form cause))
    form

def unescapeVersionByOctets? (form : String) : Option (Except ModuleError String) :=
  unescapeByOctets? (.invalidEscapedVersion form) (fun version => some (answerVersion version)) form

theorem escapeByOctets?_some (checked : Except ModuleError Unit) (s : String) :
    escapeByOctets? (some checked) s = some (do checked; escapeChecked s) := by
  cases checked <;> rfl

theorem unescapeByOctets?_eq {invalid : ModuleError}
    {answer? : String → Option (Except ModuleError String)}
    {answer : String → Except ModuleError String} (h : ∀ s, answer? s = some (answer s))
    (form : String) :
    unescapeByOctets? invalid answer? form = some (answerForm invalid answer form) := by
  rw [unescapeByOctets?, answerForm]
  cases unescapeText? form.toList with
  | none => rfl
  | some s => exact h (String.ofList s)

theorem escapePathByOctets?_eq (path : String) :
    escapePathByOctets? path = some (escapePath path) := by
  rw [escapePathByOctets?, checkModulePathByOctets?_eq, escapeByOctets?_some, escapePath]

theorem escapeVersionByOctets?_eq (version : String) :
    escapeVersionByOctets? version = some (escapeVersion version) := by
  rw [escapeVersionByOctets?, escapeByOctets?_some, escapeVersion]
  split <;> rfl

theorem unescapePathByOctets?_eq (form : String) :
    unescapePathByOctets? form = some (unescapePath form) := by
  rw [unescapePath_eq_answerForm]
  refine unescapeByOctets?_eq ?_ form
  intro path
  rw [checkModulePathByOctets?_eq, answerPath]
  cases checkPath .modulePath path <;> rfl

theorem unescapeVersionByOctets?_eq (form : String) :
    unescapeVersionByOctets? form = some (unescapeVersion form) := by
  rw [unescapeVersion_eq_answerForm]
  exact unescapeByOctets?_eq (fun _ => rfl) form

/-! ## All accesses -/

/-- No access is refused. Whatever the texts, the functions that look at octets and cut at positions
have an answer, and it is the answer of the functions on characters; their scans, one for each kind
of suffix, find the run that a scan of characters finds. A suffix that is asked what it wants is
empty, or something of it is left without the mark for unstable releases. -/
theorem octet_accesses_succeed :
    (∀ path, splitMajorByOctets? path = some (splitMajor? path)) ∧
    (∀ path, splitDottedByOctets? path = some (splitDotted? path)) ∧
    (∀ path,
      scanBack? (fun c => c.isDigit || c == '.') (· == '.') path (octets path).length false =
        some ((octets (splitTrailing (fun c => c.isDigit || c == '.') path).1).length,
          (splitTrailing (fun c => c.isDigit || c == '.') path).2.contains '.')) ∧
    (∀ body mark,
      scanBack? Char.isDigit (fun _ => false) (body ++ mark) (octets body).length false =
        some ((octets (splitTrailing Char.isDigit body).1).length, false)) ∧
    (∀ version, majorTextByOctets? version =
      some ((Version.parse? version).map Version.majorText)) ∧
    (∀ version suffix, matchesSuffixByOctets? version suffix =
      some (matchesSuffix version suffix)) ∧
    (∀ path, pathSuffix path = [] ∨ (cutUnstable (pathSuffix path)).1 ≠ []) ∧
    (∀ path version, checkReleaseByOctets? path version = some (checkRelease path version)) ∧
    (∀ a b, compareVersionsByOctets? a b = some (compareVersions a b)) ∧
    (∀ a b : Release, a.orderByOctets? b = some (a.order b)) ∧
    (∀ path, escapePathByOctets? path = some (escapePath path)) ∧
    (∀ version, escapeVersionByOctets? version = some (escapeVersion version)) ∧
    (∀ form, unescapePathByOctets? form = some (unescapePath form)) ∧
    ∀ form, unescapeVersionByOctets? form = some (unescapeVersion form) := by
  refine ⟨splitMajorByOctets?_eq, splitDottedByOctets?_eq, scanBack?_slashed, scanBack?_dotted,
    majorTextByOctets?_eq, matchesSuffixByOctets?_eq, ?_, checkReleaseByOctets?_eq,
    compareVersionsByOctets?_eq, Release.orderByOctets?_eq, escapePathByOctets?_eq,
    escapeVersionByOctets?_eq, unescapePathByOctets?_eq, unescapeVersionByOctets?_eq⟩
  intro path
  refine (pathSuffix_cases path).imp_right ?_
  rintro ⟨mark, major, -, hcut⟩
  rw [hcut]
  exact List.cons_ne_nil mark major

end ModuleId
