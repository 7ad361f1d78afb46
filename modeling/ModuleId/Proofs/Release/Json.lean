import ModuleId.Proofs.Json.Reader
import ModuleId.Release.Json

/-! # Releases in JSON are read back

The text of a release holds its path and, unless it is empty, its version, and an absent version is
read as the empty one. What can be read as a release at all is said by the shape of the value. -/

namespace ModuleId

/-! ## Members of objects -/

/-- An object has a value under a name: the last of the members with that name, and no other,
counts. -/
def Json.HasMember (name : String) (value : Json) (members : List (String × Json)) : Prop :=
  ∃ before after, members = before ++ (name, value) :: after ∧ ∀ other ∈ after, other.1 ≠ name

namespace Json

variable {name : String} {members : List (String × Json)}

theorem member?_eq_some_iff {value : Json} :
    member? name members = some value ↔ HasMember name value members := by
  simp only [member?, Option.map_eq_some_iff, List.find?_eq_some_iff_append, beq_iff_eq,
    Bool.not_eq_true', beq_eq_false_iff_ne]
  constructor
  · rintro ⟨⟨found, value⟩, ⟨rfl, after, before, hmembers, hafter⟩, rfl⟩
    refine ⟨before.reverse, after.reverse, ?_, ?_⟩
    · rw [← members.reverse_reverse, hmembers]
      simp
    · intro other hother
      exact hafter other (List.mem_reverse.mp hother)
  · rintro ⟨before, after, rfl, hafter⟩
    refine ⟨(name, value), ⟨rfl, after.reverse, before.reverse, by simp, ?_⟩, rfl⟩
    intro other hother
    exact hafter other (List.mem_reverse.mp hother)

theorem member?_eq_none_iff :
    member? name members = none ↔ ∀ member ∈ members, member.1 ≠ name := by
  simp [member?]

end Json

namespace Release

/-! ## Values that are read as a release -/

/-- The JSON values of a release: an object with a path, or an array that starts with it. Both may
leave out the version when it is empty, and an object may have further members. -/
inductive IsEncoded : Json → Release → Prop
  | object {members path version} (hpath : Json.HasMember "Path" (.string path) members)
      (hversion : Json.HasMember "Version" (.string version) members) :
      IsEncoded (.object members) ⟨path, version⟩
  | objectOfPath {members path} (hpath : Json.HasMember "Path" (.string path) members)
      (hversion : ∀ member ∈ members, member.1 ≠ "Version") : IsEncoded (.object members) ⟨path, ""⟩
  | array {path version} : IsEncoded (.array [.string path, .string version]) ⟨path, version⟩
  | arrayOfPath {path} : IsEncoded (.array [.string path]) ⟨path, ""⟩

theorem field_eq_ok_iff {value : Json} {text : String} :
    field value = .ok text ↔ value = .string text := by
  cases value <;> simp [field]

theorem optionalField_eq_ok_iff {value : Option Json} {text : Option String} :
    optionalField value = .ok text ↔ value = text.map .string := by
  cases value with
  | none => cases text <;> simp [optionalField]
  | some value => cases text <;> cases value <;> simp [optionalField, field, Except.map]

theorem bind_eq_ok_iff {ε α β : Type} {x : Except ε α} {f : α → Except ε β} {b : β} :
    (x >>= f) = .ok b ↔ ∃ a, x = .ok a ∧ f a = .ok b := by
  cases x <;> simp [bind, Except.bind]

/-- An object is read by two of its members. -/
theorem ofJson_object_eq_ok_iff {members : List (String × Json)} {r : Release} :
    ofJson (.object members) = .ok r ↔
      Json.HasMember "Path" (.string r.path) members ∧
        (Json.HasMember "Version" (.string r.version) members ∨
          (∀ member ∈ members, member.1 ≠ "Version") ∧ r.version = "") := by
  simp only [ofJson, bind_eq_ok_iff, optionalField_eq_ok_iff, ← Json.member?_eq_some_iff,
    ← Json.member?_eq_none_iff]
  constructor
  · rintro ⟨path, hpath, version, hversion, h⟩
    cases path with
    | none => cases h
    | some path =>
        cases h
        cases version with
        | none => exact ⟨hpath, .inr ⟨hversion, rfl⟩⟩
        | some version => exact ⟨hpath, .inl hversion⟩
  · rintro ⟨hpath, hversion | ⟨hversion, hempty⟩⟩
    · exact ⟨some r.path, hpath, some r.version, hversion, rfl⟩
    · exact ⟨some r.path, hpath, none, hversion, by rw [Option.getD_none, ← hempty]⟩

/-- An array is read only when its one or two items are the fields. -/
theorem eq_of_ofJson_array {items : List Json} {r : Release} (h : ofJson (.array items) = .ok r) :
    items = [.string r.path, .string r.version] ∨
      items = [.string r.path] ∧ r.version = "" := by
  match items with
  | [] => cases h
  | [path] =>
      simp only [ofJson, bind_eq_ok_iff, field_eq_ok_iff] at h
      obtain ⟨text, rfl, ⟨⟩⟩ := h
      exact .inr ⟨rfl, rfl⟩
  | path :: version :: rest =>
      simp only [ofJson, bind_eq_ok_iff, field_eq_ok_iff] at h
      obtain ⟨text, rfl, other, rfl, h⟩ := h
      cases rest with
      | nil =>
          cases h
          exact .inl rfl
      | cons _ _ => cases h

/-- The values that are read as a release are those with the shape of one. -/
theorem ofJson_eq_ok_iff {value : Json} {r : Release} :
    ofJson value = .ok r ↔ IsEncoded value r := by
  obtain ⟨path, version⟩ := r
  constructor
  · intro h
    cases value with
    | object members =>
        obtain ⟨hpath, hversion | ⟨hversion, rfl⟩⟩ := ofJson_object_eq_ok_iff.mp h
        · exact .object hpath hversion
        · exact .objectOfPath hpath hversion
    | array items =>
        obtain rfl | ⟨rfl, rfl⟩ := eq_of_ofJson_array h
        · exact .array
        · exact .arrayOfPath
    | _ => cases h
  · intro h
    cases h with
    | object hpath hversion => exact ofJson_object_eq_ok_iff.mpr ⟨hpath, .inl hversion⟩
    | objectOfPath hpath hversion =>
        exact ofJson_object_eq_ok_iff.mpr ⟨hpath, .inr ⟨hversion, rfl⟩⟩
    | array => rfl
    | arrayOfPath => rfl

/-! ## The text of a release -/

theorem toList_jsonText (r : Release) :
    r.jsonText.toList = "\x7b\"Path\":".toList ++ Json.literal r.path.toList ++
      (if r.version = "" then [] else ",\"Version\":".toList ++ Json.literal r.version.toList) ++
      ['\x7d'] := by
  have hpath : Json.literal ['P', 'a', 't', 'h'] = ['"', 'P', 'a', 't', 'h', '"'] := rfl
  have hversion : Json.literal ['V', 'e', 'r', 's', 'i', 'o', 'n'] =
      ['"', 'V', 'e', 'r', 's', 'i', 'o', 'n', '"'] := rfl
  by_cases hempty : r.version = ""
  · simp [jsonText, toJson, Json.compact, Json.compactText, Json.compactMembers, Json.scalarText,
      hempty, hpath]
  · simp [jsonText, toJson, Json.compact, Json.compactText, Json.compactMembers, Json.scalarText,
      hempty, hpath, hversion, List.intercalate_cons_cons]

theorem isReadable_toJson (r : Release) : r.toJson.IsReadable := by
  unfold toJson
  split <;> simp [Json.IsReadable, Json.AreMembersReadable]

theorem isEncoded_toJson (r : Release) : IsEncoded r.toJson r := by
  obtain ⟨path, version⟩ := r
  by_cases hempty : version = ""
  · subst hempty
    have hpath : Json.HasMember "Path" (.string path) [("Path", .string path)] :=
      ⟨[], [], rfl, by simp⟩
    exact .objectOfPath hpath (by simp)
  · have hpath : Json.HasMember "Path" (.string path)
        [("Path", .string path), ("Version", .string version)] := ⟨[], _, rfl, by simp⟩
    have hversion : Json.HasMember "Version" (.string version)
        [("Path", .string path), ("Version", .string version)] := ⟨[_], [], rfl, by simp⟩
    simpa [toJson, hempty] using IsEncoded.object hpath hversion

/-- Writing a release as JSON loses nothing: the text, which holds the path and, unless it is
empty, the version, is read as a value, and that value as the same release. The values that are
read as a release are those with the shape of one. -/
theorem jsonText_read_back :
    (∀ r : Release,
      r.jsonText.toList = "\x7b\"Path\":".toList ++ Json.literal r.path.toList ++
        (if r.version = "" then [] else ",\"Version\":".toList ++ Json.literal r.version.toList) ++
        ['\x7d'] ∧
      ∃ value, Json.parse? r.jsonText = some value ∧ ofJson value = .ok r) ∧
    ∀ (value : Json) (r : Release), ofJson value = .ok r ↔ IsEncoded value r := by
  refine ⟨fun r => ⟨toList_jsonText r, r.toJson, ?_, ?_⟩, fun value r => ofJson_eq_ok_iff⟩
  · exact Json.parse?_compact (isReadable_toJson r)
  · exact ofJson_eq_ok_iff.mpr (isEncoded_toJson r)

end Release

end ModuleId
