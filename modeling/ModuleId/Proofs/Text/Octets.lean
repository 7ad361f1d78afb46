import Mathlib.Data.List.Induction
import Mathlib.Data.Nat.PSub
import ModuleId.Text.Ascii
import ModuleId.Text.Split

/-! # Texts as octets

A text in UTF-8 is read by positions, which count octets. A position may lie outside the text, and
it may lie inside a character; each access says by `none` that it is refused. The octets of an ASCII
character tell it apart from every other, so a scan over octets finds what a scan over characters
finds. -/

namespace ModuleId.Text

/-! ## Octets -/

/-- The octets of a text in UTF-8. -/
def octets (s : List Char) : List UInt8 :=
  s.flatMap String.utf8EncodeChar

/-- The octets that are the ASCII characters of a class. -/
def octetIn (p : Char → Bool) (octet : UInt8) : Bool :=
  octet < 128 && p (Char.ofNat octet.toNat)

/-- A class of which no character lies beyond ASCII. -/
def IsAsciiClass (p : Char → Bool) : Prop :=
  ∀ c, p c = true → isAscii c = true

theorem isAsciiClass_beq {c : Char} (h : isAscii c = true) : IsAsciiClass (· == c) := by
  intro other hother
  rwa [eq_of_beq hother]

@[simp] theorem octets_nil : octets [] = [] :=
  rfl

theorem octets_cons (c : Char) (s : List Char) :
    octets (c :: s) = String.utf8EncodeChar c ++ octets s :=
  rfl

@[simp] theorem octets_append (s t : List Char) : octets (s ++ t) = octets s ++ octets t :=
  List.flatMap_append

/-- The octets are those that a string consists of. -/
theorem octets_toList (s : String) : (octets s.toList).toByteArray = s.toByteArray := by
  rw [octets, ← List.utf8Encode.eq_def, ← String.toByteArray_ofList, String.ofList_toList]

@[simp] theorem octets_eq_nil_iff {s : List Char} : octets s = [] ↔ s = [] := by
  cases s <;> simp [octets_cons]

theorem utf8EncodeChar_of_isAscii {c : Char} (h : isAscii c = true) :
    String.utf8EncodeChar c = [UInt8.ofNat c.toNat] := by
  have hsmall : c.val.toNat ≤ 127 := Nat.le_of_lt_succ (of_decide_eq_true h)
  simp only [String.utf8EncodeChar, hsmall, if_true]
  rfl

theorem length_octets_concat {c : Char} (h : isAscii c = true) (s : List Char) :
    (octets (s ++ [c])).length = (octets s).length + 1 := by
  simp [octets_cons, utf8EncodeChar_of_isAscii h]

/-- Beyond ASCII no octet of a character is one of the first 128. -/
theorem le_of_mem_utf8EncodeChar {c : Char} (h : isAscii c = false) :
    ∀ octet ∈ String.utf8EncodeChar c, 128 ≤ octet.toNat := by
  have hlarge : ¬ c.val.toNat ≤ 127 := Nat.not_le_of_lt (Nat.le_of_not_lt (of_decide_eq_false h))
  simp only [String.utf8EncodeChar, hlarge, if_false]
  -- the first octet is marked by the number of octets, and all others by their highest bit
  split_ifs <;>
    simp only [List.forall_mem_cons, List.not_mem_nil, false_imp_iff, implies_true, and_true,
      UInt8.toNat_ofNat'] <;>
    omega

/-- Each octet of a character tells whether the character is in an ASCII class. -/
theorem octetIn_of_mem {p : Char → Bool} (hp : IsAsciiClass p) {c : Char} {octet : UInt8}
    (h : octet ∈ String.utf8EncodeChar c) : octetIn p octet = p c := by
  cases hascii : isAscii c with
  | true =>
      rw [utf8EncodeChar_of_isAscii hascii, List.mem_singleton] at h
      have hsmall : c.toNat < 128 := of_decide_eq_true hascii
      have hoctet : octet.toNat = c.toNat := by
        rw [h, UInt8.toNat_ofNat', Nat.mod_eq_of_lt (by omega)]
      have hlt : octet < 128 := UInt8.lt_iff_toNat_lt.mpr (by rw [hoctet]; exact hsmall)
      simp [octetIn, hlt, hoctet]
  | false =>
      have hlarge := le_of_mem_utf8EncodeChar hascii octet h
      have hlt : ¬ octet < 128 := by
        rw [UInt8.lt_iff_toNat_lt]
        exact Nat.not_lt_of_le hlarge
      have hc : p c = false := by
        rw [← Bool.not_eq_true]
        intro hmem
        simp [hp c hmem] at hascii
      simp [octetIn, hlt, hc]

/-! ## Accesses -/

/-- The octet a number of places back from a position, unless that is before the first octet or
behind the last one. -/
def octetBack? (s : List Char) (position back : Nat) : Option UInt8 :=
  (position.psub back).bind fun index => (octets s)[index]?

/-- A text cut at a position, which must not lie inside a character. -/
def cutAt? : Nat → List Char → Option (List Char × List Char)
  | 0, s => some ([], s)
  | _ + 1, [] => none
  | position + 1, c :: s =>
      ((position + 1).psub c.utf8Size).bind fun rest =>
        (cutAt? rest s).map fun (before, after) => (c :: before, after)

theorem cutAt?_zero (s : List Char) : cutAt? 0 s = some ([], s) := by
  simp [cutAt?]

theorem cutAt?_octets (s t : List Char) : cutAt? (octets s).length (s ++ t) = some (s, t) := by
  induction s with
  | nil => exact cutAt?_zero t
  | cons c s ih =>
      have hlength : (octets (c :: s)).length = c.utf8Size - 1 + (octets s).length + 1 := by
        have hpos := c.utf8Size_pos
        rw [octets_cons, List.length_append, String.length_utf8EncodeChar]
        omega
      have hrest : (c.utf8Size - 1 + (octets s).length + 1).psub c.utf8Size =
          some (octets s).length := by
        have hpos := c.utf8Size_pos
        rw [Nat.psub_eq_some]
        omega
      rw [hlength, List.cons_append, cutAt?, hrest, Option.bind_some, ih]
      rfl

/-- The first character is cut off when it is ASCII. -/
theorem cutAt?_cons {c : Char} (h : isAscii c = true) (s : List Char) :
    cutAt? 1 (c :: s) = some ([c], s) := by
  have hcut := cutAt?_octets [c] s
  rwa [octets_cons, utf8EncodeChar_of_isAscii h] at hcut

theorem append_of_cutAt? {s before after : List Char} {position : Nat}
    (h : cutAt? position s = some (before, after)) :
    s = before ++ after ∧ position = (octets before).length := by
  fun_induction cutAt? position s generalizing before after with
  | case1 s =>
      obtain ⟨rfl, rfl⟩ : [] = before ∧ s = after := by simpa using h
      exact ⟨rfl, rfl⟩
  | case2 => simp at h
  | case3 position c s ih =>
      simp only [Option.bind_eq_some_iff, Option.map_eq_some_iff, Nat.psub_eq_some] at h
      obtain ⟨rest, hrest, ⟨front, back⟩, hcut, hparts⟩ := h
      obtain ⟨rfl, rfl⟩ : c :: front = before ∧ back = after := by simpa using hparts
      obtain ⟨rfl, rfl⟩ := ih rest hcut
      refine ⟨rfl, ?_⟩
      rw [octets_cons, List.length_append, String.length_utf8EncodeChar, Nat.add_comm, hrest]

theorem cutAt?_eq_some_iff {s before after : List Char} {position : Nat} :
    cutAt? position s = some (before, after) ↔
      s = before ++ after ∧ position = (octets before).length := by
  refine ⟨append_of_cutAt?, ?_⟩
  rintro ⟨rfl, rfl⟩
  exact cutAt?_octets before after

/-- The positions of a cut are those of the characters of a string and the one behind the last. -/
theorem isSome_cutAt?_iff {s : String} {position : Nat} :
    (cutAt? position s.toList).isSome = true ↔ String.Pos.Raw.IsValid s ⟨position⟩ := by
  have hlength (t : String) : t.rawEndPos = ⟨(octets t.toList).length⟩ := by
    rw [String.rawEndPos, ← String.size_toByteArray, ← octets_toList, List.size_toByteArray]
  rw [Option.isSome_iff_exists, String.Pos.Raw.isValid_iff_exists_append]
  constructor
  · rintro ⟨⟨before, after⟩, h⟩
    obtain ⟨hs, rfl⟩ := append_of_cutAt? h
    refine ⟨String.ofList before, String.ofList after, ?_, ?_⟩
    · rw [← String.ofList_append, ← hs, String.ofList_toList]
    · rw [hlength, String.toList_ofList]
  · rintro ⟨before, after, rfl, hposition⟩
    rw [hlength] at hposition
    obtain rfl : position = (octets before.toList).length := by
      simpa using hposition
    exact ⟨_, by rw [String.toList_append, cutAt?_octets]⟩

/-- Inside a character there is no position to cut at. -/
example : cutAt? 1 ['é', 'a'] = none := by
  decide

/-- Right before a position between characters stands an octet of the character before it. -/
theorem exists_octetBack? (before after : List Char) (c : Char) :
    ∃ octet ∈ String.utf8EncodeChar c,
      octetBack? (before ++ c :: after) (octets (before ++ [c])).length 1 = some octet := by
  obtain ⟨front, octet, hc⟩ : ∃ front octet, String.utf8EncodeChar c = front ++ [octet] :=
    ⟨_, _, (List.dropLast_concat_getLast String.utf8EncodeChar_ne_nil).symm⟩
  refine ⟨octet, by simp [hc], ?_⟩
  have hindex : (octets (before ++ [c])).length.psub 1 =
      some ((octets before).length + front.length) := by
    rw [Nat.psub_eq_some]
    simp [octets_cons, hc]
    omega
  rw [octetBack?, hindex, Option.bind_some]
  simp [octets_cons, hc]

/-- At a position between characters stands an octet of the character behind it. -/
theorem exists_getElem?_octets (before after : List Char) (c : Char) :
    ∃ octet ∈ String.utf8EncodeChar c,
      (octets (before ++ c :: after))[(octets before).length]? = some octet := by
  obtain ⟨octet, rest, hc⟩ := List.exists_cons_of_ne_nil (@String.utf8EncodeChar_ne_nil c)
  exact ⟨octet, by simp [hc], by simp [octets_cons, hc]⟩

theorem octetBack?_add (s : List Char) (position back k : Nat) :
    octetBack? s (position + k) (back + k) = octetBack? s position back := by
  have hindex : (position + k).psub (back + k) = position.psub back := by
    refine Option.ext fun index => ?_
    rw [Nat.psub_eq_some, Nat.psub_eq_some]
    omega
  rw [octetBack?, hindex, octetBack?]

/-! ## Scans -/

/-- Where the run of octets in `p` begins that ends at a position, and whether an octet in `q` is in
it. -/
def scanBack? (p q : Char → Bool) (s : List Char) : Nat → Bool → Option (Nat × Bool)
  | 0, found => some (0, found)
  | position + 1, found => do
      let octet ← octetBack? s (position + 1) 1
      if octetIn p octet then scanBack? p q s position (found || octetIn q octet)
      else some (position + 1, found)

theorem splitTrailing_concat (p : Char → Bool) (s : List Char) (c : Char) :
    splitTrailing p (s ++ [c]) =
      if p c then ((splitTrailing p s).1, (splitTrailing p s).2 ++ [c]) else (s ++ [c], []) := by
  by_cases h : p c <;> simp [splitTrailing, h]

/-- A scan over octets finds the run of characters, if no character beyond ASCII is in the class. -/
theorem scanBack?_octets {p q : Char → Bool} (hp : IsAsciiClass p) (hq : IsAsciiClass q)
    (s t : List Char) (found : Bool) :
    scanBack? p q (s ++ t) (octets s).length found =
      some ((octets (splitTrailing p s).1).length, found || (splitTrailing p s).2.any q) := by
  induction s using List.reverseRecOn generalizing t found with
  | nil => simp [scanBack?, splitTrailing]
  | append_singleton s c ih =>
      obtain ⟨octet, hmem, hoctet⟩ := exists_octetBack? s t c
      have hp' := octetIn_of_mem hp hmem
      have hq' := octetIn_of_mem hq hmem
      rw [splitTrailing_concat]
      by_cases hc : p c = true
      · rw [length_octets_concat (hp c hc)] at hoctet ⊢
        rw [List.append_assoc, List.singleton_append, scanBack?, hoctet]
        simp only [Option.bind_eq_bind, Option.bind_some, hp', hc, if_true, ih, hq']
        simp [Bool.or_assoc, Bool.or_comm]
      · obtain ⟨position, hlength⟩ : ∃ position, (octets (s ++ [c])).length = position + 1 := by
          refine Nat.exists_eq_add_one.mpr (List.length_pos_iff.mpr ?_)
          simp
        rw [hlength] at hoctet
        rw [hlength, List.append_assoc, List.singleton_append, scanBack?, hoctet]
        simp [hp', hc, ← hlength]

theorem findIdx?_octets {p : Char → Bool} (hp : IsAsciiClass p) {before : List Char}
    (hbefore : ∀ c ∈ before, p c = false) :
    (octets before).findIdx? (octetIn p) = none := by
  rw [List.findIdx?_eq_none_iff]
  intro octet hoctet
  obtain ⟨c, hc, hmem⟩ := List.mem_flatMap.mp hoctet
  rw [octetIn_of_mem hp hmem, hbefore c hc]

/-- The first octet in an ASCII class is where the first character in it is. -/
theorem findIdx?_octets_append {p : Char → Bool} (hp : IsAsciiClass p) {before : List Char}
    (hbefore : ∀ c ∈ before, p c = false) {c : Char} (hc : p c = true) (after : List Char) :
    (octets (before ++ c :: after)).findIdx? (octetIn p) = some (octets before).length := by
  obtain ⟨octet, rest, hoctets⟩ := List.exists_cons_of_ne_nil (@String.utf8EncodeChar_ne_nil c)
  have hfirst : octetIn p octet = true := by
    rw [octetIn_of_mem hp (hoctets ▸ List.mem_cons_self), hc]
  rw [octets_append, List.findIdx?_append, findIdx?_octets hp hbefore, octets_cons, hoctets]
  simp [List.findIdx?_cons, hfirst]

end ModuleId.Text
