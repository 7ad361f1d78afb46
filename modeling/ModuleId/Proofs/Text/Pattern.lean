import ModuleId.Text.Split

/-! # Patterns

Regular expressions with numbered groups, by all the ways in which they can match a text. -/

namespace ModuleId

open Text

/-! ## Patterns -/

/-- Regular expressions in which a numbered group records the text that it matches. -/
inductive Pattern
  | empty
  | one (p : Char → Bool)
  | seq (a b : Pattern)
  | alt (a b : Pattern)
  | star (a : Pattern)
  | group (number : Nat) (a : Pattern)

/-- The groups that were matched, with their texts. -/
abbrev Captures := List (Nat × List Char)

namespace Pattern

def char (c : Char) : Pattern :=
  one (· == c)

def opt (a : Pattern) : Pattern :=
  alt a empty

def plus (a : Pattern) : Pattern :=
  seq a (star a)

/-- All ways in which a pattern can match the whole of a text. -/
inductive Matches : Pattern → List Char → Captures → Prop
  | empty : Matches empty [] []
  | one {p c} (h : p c = true) : Matches (one p) [c] []
  | seq {a b s t x y} (ha : Matches a s x) (hb : Matches b t y) :
      Matches (seq a b) (s ++ t) (x ++ y)
  | left {a b s x} (h : Matches a s x) : Matches (alt a b) s x
  | right {a b s x} (h : Matches b s x) : Matches (alt a b) s x
  | stop {a} : Matches (star a) [] []
  | step {a s t x y} (ha : Matches a s x) (hrest : Matches (star a) t y) :
      Matches (star a) (s ++ t) (x ++ y)
  | group {n a s x} (h : Matches a s x) : Matches (group n a) s (x ++ [(n, s)])

variable {a b : Pattern} {s : List Char} {x : Captures}

theorem matches_seq_iff :
    Matches (seq a b) s x ↔
      ∃ s₁ x₁ s₂ x₂, Matches a s₁ x₁ ∧ Matches b s₂ x₂ ∧ s = s₁ ++ s₂ ∧ x = x₁ ++ x₂ := by
  constructor
  · rintro (_ | _ | ⟨ha, hb⟩)
    exact ⟨_, _, _, _, ha, hb, rfl, rfl⟩
  · rintro ⟨s₁, x₁, s₂, x₂, ha, hb, rfl, rfl⟩
    exact .seq ha hb

theorem matches_opt_iff : Matches (opt a) s x ↔ Matches a s x ∨ s = [] ∧ x = [] := by
  constructor
  · rintro (_ | _ | _ | h | h)
    · exact .inl h
    · cases h
      exact .inr ⟨rfl, rfl⟩
  · rintro (h | ⟨rfl, rfl⟩)
    · exact .left h
    · exact .right .empty

theorem matches_group_iff {n : Nat} :
    Matches (group n a) s x ↔ ∃ y, Matches a s y ∧ x = y ++ [(n, s)] := by
  constructor
  · rintro (_ | _ | _ | _ | _ | _ | _ | h)
    exact ⟨_, h, rfl⟩
  · rintro ⟨y, h, rfl⟩
    exact .group h

/-! ## Patterns without groups -/

/-- A pattern that matches exactly the texts in `p` and records nothing. -/
def Recognizes (a : Pattern) (p : List Char → Prop) : Prop :=
  ∀ s x, Matches a s x ↔ x = [] ∧ p s

theorem Recognizes.congr {p q : List Char → Prop} (h : Recognizes a p) (hpq : ∀ s, p s ↔ q s) :
    Recognizes a q := by
  intro s x
  rw [h s x, hpq s]

theorem recognizes_one (p : Char → Bool) :
    Recognizes (one p) fun s => ∃ c, p c = true ∧ s = [c] := by
  intro s x
  constructor
  · rintro (_ | h)
    exact ⟨rfl, _, h, rfl⟩
  · rintro ⟨rfl, c, h, rfl⟩
    exact .one h

theorem recognizes_char (c : Char) : Recognizes (char c) (· = [c]) := by
  refine (recognizes_one (· == c)).congr ?_
  intro s
  simp

theorem Recognizes.seq {p q : List Char → Prop} (ha : Recognizes a p) (hb : Recognizes b q) :
    Recognizes (seq a b) fun s => ∃ t u, p t ∧ q u ∧ s = t ++ u := by
  intro s x
  rw [matches_seq_iff]
  constructor
  · rintro ⟨t, y, u, z, ht, hu, rfl, rfl⟩
    obtain ⟨rfl, ht'⟩ := (ha t y).mp ht
    obtain ⟨rfl, hu'⟩ := (hb u z).mp hu
    exact ⟨rfl, t, u, ht', hu', rfl⟩
  · rintro ⟨rfl, t, u, ht, hu, rfl⟩
    exact ⟨t, [], u, [], (ha t []).mpr ⟨rfl, ht⟩, (hb u []).mpr ⟨rfl, hu⟩, rfl, rfl⟩

theorem Recognizes.alt {p q : List Char → Prop} (ha : Recognizes a p) (hb : Recognizes b q) :
    Recognizes (alt a b) fun s => p s ∨ q s := by
  intro s x
  constructor
  · rintro (_ | _ | _ | h | h)
    · exact ⟨((ha s x).mp h).1, .inl ((ha s x).mp h).2⟩
    · exact ⟨((hb s x).mp h).1, .inr ((hb s x).mp h).2⟩
  · rintro ⟨rfl, h | h⟩
    · exact .left ((ha s []).mpr ⟨rfl, h⟩)
    · exact .right ((hb s []).mpr ⟨rfl, h⟩)

/-- Repeating a pattern gives the texts that are put together from texts of the pattern. -/
theorem Recognizes.star {p : List Char → Prop} (h : Recognizes a p) :
    Recognizes (star a) fun s => ∃ pieces : List (List Char), (∀ piece ∈ pieces, p piece) ∧
      s = pieces.flatten := by
  intro s x
  constructor
  · intro hs
    -- the pattern is an index of the match, so it has to be a variable in the induction
    generalize hr : Pattern.star a = r at hs
    induction hs with
    | empty | one | seq | left | right | group => simp at hr
    | stop => exact ⟨rfl, [], by simp, rfl⟩
    | step ha _ _ ih =>
        obtain rfl : a = _ := by simpa using hr
        obtain ⟨rfl, hpiece⟩ := (h _ _).mp ha
        obtain ⟨rfl, pieces, hpieces, rfl⟩ := ih rfl
        refine ⟨rfl, _ :: pieces, ?_, rfl⟩
        simpa using ⟨hpiece, hpieces⟩
  · rintro ⟨rfl, pieces, hpieces, rfl⟩
    induction pieces with
    | nil => exact .stop
    | cons piece pieces ih =>
        have hpiece : Matches a piece [] := (h piece []).mpr ⟨rfl, hpieces piece (by simp)⟩
        exact .step hpiece (ih fun other hother => hpieces other (List.mem_cons_of_mem _ hother))

theorem recognizes_star_one (p : Char → Bool) :
    Recognizes (star (one p)) fun s => ∀ c ∈ s, p c = true := by
  refine (recognizes_one p).star.congr ?_
  intro s
  constructor
  · rintro ⟨pieces, hpieces, rfl⟩ c hc
    obtain ⟨piece, hpiece, hc⟩ := List.mem_flatten.mp hc
    obtain ⟨d, hd, rfl⟩ := hpieces piece hpiece
    obtain rfl : c = d := by simpa using hc
    exact hd
  · intro h
    refine ⟨s.map ([·]), ?_, ?_⟩
    · intro piece hpiece
      obtain ⟨c, hc, rfl⟩ := List.mem_map.mp hpiece
      exact ⟨c, h c hc, rfl⟩
    · induction s with
      | nil => rfl
      | cons c s ih => simpa using ih fun d hd => h d (List.mem_cons_of_mem c hd)

/-- Texts of a pattern with dots between them. -/
def dotted (a : Pattern) : Pattern :=
  seq a (star (seq (char '.') a))

theorem Recognizes.dotted {p : List Char → Prop} (h : Recognizes a p) :
    Recognizes (dotted a) (IsDotSeparated p) := by
  refine (h.seq ((recognizes_char '.').seq h).star).congr ?_
  intro s
  constructor
  · rintro ⟨first, rest, hfirst, ⟨pieces, hpieces, rfl⟩, rfl⟩
    obtain ⟨words, hwords, rfl⟩ : ∃ words : List (List Char),
        (∀ word ∈ words, p word) ∧ pieces = words.map ('.' :: ·) := by
      induction pieces with
      | nil => exact ⟨[], by simp, rfl⟩
      | cons piece pieces ih =>
          obtain ⟨words, hwords, rfl⟩ := ih fun other hother => hpieces other (by simp [hother])
          obtain ⟨_, word, rfl, hword, rfl⟩ := hpieces piece (by simp)
          exact ⟨word :: words, by simpa using ⟨hword, hwords⟩, rfl⟩
    exact ⟨first :: words, by simp, by simpa using ⟨hfirst, hwords⟩,
      (intercalate_cons first words).symm⟩
  · rintro ⟨words, hne, hwords, rfl⟩
    obtain ⟨first, words, rfl⟩ := List.exists_cons_of_ne_nil hne
    refine ⟨first, _, hwords first (by simp), ⟨words.map ('.' :: ·), ?_, rfl⟩,
      intercalate_cons first words⟩
    intro piece hpiece
    obtain ⟨word, hword, rfl⟩ := List.mem_map.mp hpiece
    exact ⟨['.'], word, rfl, hwords word (by simp [hword]), rfl⟩

end Pattern

end ModuleId
