import ModuleId.Json.Printer
import ModuleId.Json.Reader
import ModuleId.Proofs.Json.Token

/-! # JSON values are read back

The compact text of a value is scanned as the tokens of the value, and the tokens are read as the
value again. Both go by the structure of the value, with whatever follows it left over. -/

namespace ModuleId.Json

/-! ## Values and their tokens -/

mutual

/-- Whether the decimals of a value are written as decimals. All else that a value can hold has a
text of its own. -/
def IsReadable : Json → Prop
  | .decimal literal =>
      literal.toList.all isNumberChar = true ∧ number? literal.toList = some (.decimal literal)
  | .array items => AreItemsReadable items
  | .object members => AreMembersReadable members
  | _ => True

def AreItemsReadable : List Json → Prop
  | [] => True
  | item :: items => IsReadable item ∧ AreItemsReadable items

def AreMembersReadable : List (String × Json) → Prop
  | [] => True
  | (_, value) :: members => IsReadable value ∧ AreMembersReadable members

end

mutual

def tokenList : Json → List Token
  | .null => [.null]
  | .bool value => [.bool value]
  | .integer value => [.integer value]
  | .decimal literal => [.decimal literal]
  | .string value => [.string value]
  | .array items => .openArray :: [.comma].intercalate (itemTokens items) ++ [.closeArray]
  | .object members =>
      .openObject :: [.comma].intercalate (memberTokens members) ++ [.closeObject]

def itemTokens : List Json → List (List Token)
  | [] => []
  | item :: items => tokenList item :: itemTokens items

def memberTokens : List (String × Json) → List (List Token)
  | [] => []
  | (name, value) :: members =>
      (.string name :: .colon :: tokenList value) :: memberTokens members

end

/-! ## From text to tokens -/

mutual

theorem tokens?_compactText_append : ∀ (value : Json) {rest : List Char} {tokens : List Token},
    value.IsReadable → EndsNumber rest → tokens? rest = some tokens →
      tokens? (compactText value ++ rest) = some (tokenList value ++ tokens)
  | .null, _, _, _, _, h => tokens?_of_token? (by decide) rfl h
  | .bool true, _, _, _, _, h => tokens?_of_token? (by decide) rfl h
  | .bool false, _, _, _, _, h => tokens?_of_token? (by decide) rfl h
  | .integer value, _, _, _, hrest, h =>
      tokens?_number_append (all_isNumberChar_toString_int value) (number?_toString_int value)
        hrest h
  | .decimal _, _, _, hreadable, hrest, h =>
      tokens?_number_append hreadable.1 hreadable.2 hrest h
  | .string value, _, _, _, _, h => tokens?_literal_append value h
  | .array items, rest, _, hreadable, _, h => by
      have hclose := tokens?_of_token? (c := ']') (by decide) rfl h
      have hitems := tokens?_compactItems_append items hreadable
        (endsNumber_cons (by decide) rest) hclose
      have hopen := tokens?_of_token? (c := '[') (by decide) rfl hitems
      simpa [compactText, tokenList] using hopen
  | .object members, rest, _, hreadable, _, h => by
      have hclose := tokens?_of_token? (c := '\x7d') (by decide) rfl h
      have hmembers := tokens?_compactMembers_append members hreadable
        (endsNumber_cons (by decide) rest) hclose
      have hopen := tokens?_of_token? (c := '\x7b') (by decide) rfl hmembers
      simpa [compactText, tokenList] using hopen

theorem tokens?_compactItems_append :
    ∀ (items : List Json) {rest : List Char} {tokens : List Token},
      AreItemsReadable items → EndsNumber rest → tokens? rest = some tokens →
        tokens? ([','].intercalate (compactItems items) ++ rest) =
          some ([.comma].intercalate (itemTokens items) ++ tokens)
  | [], _, _, _, _, h => h
  | [item], _, _, hreadable, hrest, h => by
      have hitem := tokens?_compactText_append item hreadable.1 hrest h
      simpa [compactItems, itemTokens] using hitem
  | item :: next :: items, rest, _, hreadable, hrest, h => by
      have hnext := tokens?_compactItems_append (next :: items) hreadable.2 hrest h
      have hcomma := tokens?_of_token? (c := ',') (by decide) rfl hnext
      have hitem := tokens?_compactText_append item hreadable.1
        (endsNumber_cons (by decide) _) hcomma
      simpa [compactItems, itemTokens, List.intercalate_cons_cons] using hitem

theorem tokens?_compactMembers_append :
    ∀ (members : List (String × Json)) {rest : List Char} {tokens : List Token},
      AreMembersReadable members → EndsNumber rest → tokens? rest = some tokens →
        tokens? ([','].intercalate (compactMembers members) ++ rest) =
          some ([.comma].intercalate (memberTokens members) ++ tokens)
  | [], _, _, _, _, h => h
  | [(name, value)], _, _, hreadable, hrest, h => by
      have hvalue := tokens?_compactText_append value hreadable.1 hrest h
      have hcolon := tokens?_of_token? (c := ':') (by decide) rfl hvalue
      have hname := tokens?_literal_append name hcolon
      simpa [compactMembers, memberTokens] using hname
  | (name, value) :: next :: members, rest, _, hreadable, hrest, h => by
      have hnext := tokens?_compactMembers_append (next :: members) hreadable.2 hrest h
      have hcomma := tokens?_of_token? (c := ',') (by decide) rfl hnext
      have hvalue := tokens?_compactText_append value hreadable.1
        (endsNumber_cons (by decide) _) hcomma
      have hcolon := tokens?_of_token? (c := ':') (by decide) rfl hvalue
      have hname := tokens?_literal_append name hcolon
      simpa [compactMembers, memberTokens, List.intercalate_cons_cons] using hname

end

/-! ## From tokens to values -/

theorem head?_itemTokens_ne (item : Json) (items : List Json) (rest : List Token) :
    ([.comma].intercalate (itemTokens (item :: items)) ++ rest).head? ≠ some .closeArray := by
  have hitem (tail : List Token) : (tokenList item ++ tail).head? ≠ some .closeArray := by
    cases item <;> simp [tokenList]
  cases items with
  | nil => simpa [itemTokens] using hitem rest
  | cons next items =>
      rw [itemTokens, itemTokens, List.intercalate_cons_cons, List.append_assoc, List.append_assoc]
      exact hitem _

theorem value?_openArray {bound : Nat} {tokens : List Token}
    (h : tokens.head? ≠ some .closeArray) :
    value? (bound + 1) (.openArray :: tokens) =
      (items? bound tokens).map fun (items, rest) => (.array items, rest) := by
  rw [value?]
  intro rest htokens
  exact h (by rw [htokens]; rfl)

theorem head?_memberTokens_ne (name : String) (value : Json) (members : List (String × Json))
    (rest : List Token) :
    ([.comma].intercalate (memberTokens ((name, value) :: members)) ++ rest).head? ≠
      some .closeObject := by
  cases members <;> simp [memberTokens, List.intercalate_cons_cons]

theorem value?_openObject {bound : Nat} {tokens : List Token}
    (h : tokens.head? ≠ some .closeObject) :
    value? (bound + 1) (.openObject :: tokens) =
      (members? bound tokens).map fun (members, rest) => (.object members, rest) := by
  rw [value?]
  intro rest htokens
  exact h (by rw [htokens]; rfl)

mutual

/-- Twice as many steps as a value has tokens are enough to read it. -/
theorem value?_tokenList_append : ∀ (value : Json) (bound : Nat) (rest : List Token),
    2 * (tokenList value).length ≤ bound →
      value? bound (tokenList value ++ rest) = some (value, rest)
  | .null, _, _, _ => by simp [tokenList, value?]
  | .bool _, _, _, _ => by simp [tokenList, value?]
  | .integer _, _, _, _ => by simp [tokenList, value?]
  | .decimal _, _, _, _ => by simp [tokenList, value?]
  | .string _, _, _, _ => by simp [tokenList, value?]
  | .array _, 0, _, h => by simp [tokenList] at h
  | .array [], bound + 1, _, _ => by simp [tokenList, itemTokens, value?]
  | .array (item :: items), bound + 1, rest, h => by
      simp only [tokenList, List.length_cons, List.length_append] at h
      have hitems := items?_itemTokens_append item items bound rest (by omega)
      have htokens : tokenList (.array (item :: items)) ++ rest = .openArray ::
          ([.comma].intercalate (itemTokens (item :: items)) ++ .closeArray :: rest) := by
        simp [tokenList]
      rw [htokens, value?_openArray (head?_itemTokens_ne item items _), hitems]
      rfl
  | .object _, 0, _, h => by simp [tokenList] at h
  | .object [], bound + 1, _, _ => by simp [tokenList, memberTokens, value?]
  | .object ((name, value) :: members), bound + 1, rest, h => by
      simp only [tokenList, List.length_cons, List.length_append] at h
      have hmembers := members?_memberTokens_append name value members bound rest (by omega)
      have htokens : tokenList (.object ((name, value) :: members)) ++ rest = .openObject ::
          ([.comma].intercalate (memberTokens ((name, value) :: members)) ++
            .closeObject :: rest) := by
        simp [tokenList]
      rw [htokens, value?_openObject (head?_memberTokens_ne name value members _), hmembers]
      rfl

theorem items?_itemTokens_append :
    ∀ (item : Json) (items : List Json) (bound : Nat) (rest : List Token),
      2 * ([.comma].intercalate (itemTokens (item :: items))).length + 1 ≤ bound →
        items? bound ([.comma].intercalate (itemTokens (item :: items)) ++ .closeArray :: rest) =
          some (item :: items, rest)
  | _, _, 0, _, h => by simp at h
  | item, [], bound + 1, rest, h => by
      simp only [itemTokens, List.intercalate_singleton] at h ⊢
      have hitem := value?_tokenList_append item bound (.closeArray :: rest) (by omega)
      simp only [items?, hitem]
  | item, next :: items, bound + 1, rest, h => by
      rw [itemTokens, itemTokens, List.intercalate_cons_cons] at h ⊢
      simp only [List.length_append, List.length_cons] at h
      have hnext := items?_itemTokens_append next items bound rest (by rw [itemTokens]; omega)
      have hitem := value?_tokenList_append item bound (.comma ::
        ([.comma].intercalate (itemTokens (next :: items)) ++ .closeArray :: rest)) (by omega)
      rw [List.append_assoc, List.append_assoc, List.singleton_append, items?, ← itemTokens, hitem]
      simp only [hnext]
      rfl

theorem members?_memberTokens_append :
    ∀ (name : String) (value : Json) (members : List (String × Json)) (bound : Nat)
      (rest : List Token),
      2 * ([.comma].intercalate (memberTokens ((name, value) :: members))).length + 1 ≤ bound →
        members? bound ([.comma].intercalate (memberTokens ((name, value) :: members)) ++
          .closeObject :: rest) = some ((name, value) :: members, rest)
  | _, _, _, 0, _, h => by simp at h
  | name, value, [], bound + 1, rest, h => by
      simp only [memberTokens, List.intercalate_singleton, List.length_cons] at h ⊢
      have hvalue := value?_tokenList_append value bound (.closeObject :: rest) (by omega)
      simp only [List.cons_append, members?, hvalue]
  | name, value, (next, other) :: members, bound + 1, rest, h => by
      rw [memberTokens, memberTokens, List.intercalate_cons_cons] at h ⊢
      simp only [List.length_append, List.length_cons] at h
      have hnext := members?_memberTokens_append next other members bound rest
        (by rw [memberTokens]; omega)
      have hvalue := value?_tokenList_append value bound (.comma ::
        ([.comma].intercalate (memberTokens ((next, other) :: members)) ++
          .closeObject :: rest)) (by omega)
      rw [List.append_assoc, List.append_assoc, List.singleton_append, List.cons_append,
        List.cons_append, members?, ← memberTokens, hvalue]
      simp only [hnext]
      rfl

end

/-- A value is read back from its compact text. -/
theorem parse?_compact {value : Json} (h : value.IsReadable) :
    parse? value.compact = some value := by
  have hend : EndsNumber [] := by simp [EndsNumber]
  have htokens : tokens? (compactText value) = some (tokenList value) := by
    simpa using tokens?_compactText_append value h hend rfl
  have hvalue : value? (2 * (tokenList value).length) (tokenList value) = some (value, []) := by
    simpa using value?_tokenList_append value _ [] (Nat.le_refl _)
  simp only [parse?, compact, String.toList_ofList, htokens, hvalue]

end ModuleId.Json
