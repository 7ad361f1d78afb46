/-! # Cutting text into parts -/

namespace ModuleId.Text

/-- The part before the first `sep`, and the part after it when there is a `sep`. -/
def cut (sep : Char) (s : List Char) : List Char × Option (List Char) :=
  (s.takeWhile (· != sep), (s.dropWhile (· != sep)).tail?)

/-- A text that may be missing, behind its separator. -/
def behind (sep : Char) : Option (List Char) → List Char
  | none => []
  | some s => sep :: s

/-- The longest final run of characters in `p`, after what precedes it. -/
def splitTrailing (p : Char → Bool) (s : List Char) : List Char × List Char :=
  ((s.reverse.dropWhile p).reverse, (s.reverse.takeWhile p).reverse)

/-- Whether `c` stands twice in a row. -/
def doubled (c : Char) : List Char → Bool
  | a :: b :: rest => (a == c && b == c) || doubled c (b :: rest)
  | _ => false

/-! ## Nothing is lost -/

theorem cut_of_not_mem {sep : Char} {s : List Char} (h : sep ∉ s) : cut sep s = (s, none) := by
  induction s with
  | nil => rfl
  | cons c s ih =>
      have hc : c ≠ sep := fun he => h (he ▸ List.mem_cons_self)
      have hs := ih fun hm => h (List.mem_cons_of_mem c hm)
      simp only [cut, Prod.mk.injEq] at hs
      simp [cut, hc, hs]

theorem cut_append {sep : Char} {s : List Char} (h : sep ∉ s) (t : List Char) :
    cut sep (s ++ sep :: t) = (s, some t) := by
  induction s with
  | nil => simp [cut]
  | cons c s ih =>
      have hc : c ≠ sep := fun he => h (he ▸ List.mem_cons_self)
      have hs := ih fun hm => h (List.mem_cons_of_mem c hm)
      simp only [cut, Prod.mk.injEq] at hs
      simp [cut, hc, hs]

@[simp] theorem behind_eq_nil_iff {sep : Char} {s : Option (List Char)} :
    behind sep s = [] ↔ s = none := by
  cases s <;> simp [behind]

/-- Cutting finds the one way to write a text with no separator before the first. -/
theorem cut_eq_iff {sep : Char} {s head : List Char} {rest : Option (List Char)} :
    cut sep s = (head, rest) ↔ sep ∉ head ∧ s = head ++ behind sep rest := by
  constructor
  · intro h
    simp only [cut, Prod.mk.injEq] at h
    obtain ⟨rfl, rfl⟩ := h
    refine ⟨?_, ?_⟩
    · intro hmem
      simpa using List.all_eq_true.mp List.all_takeWhile sep hmem
    · have hsplit := List.takeWhile_append_dropWhile (p := (· != sep)) (l := s)
      cases hrest : s.dropWhile (· != sep) with
      | nil => simpa [behind, hrest, eq_comm] using hsplit
      | cons c t =>
          have hc : c = sep := by
            have := List.head?_dropWhile_not (· != sep) s
            simpa [hrest] using this
          subst hc
          simpa [behind, hrest, eq_comm] using hsplit
  · intro h
    obtain ⟨hhead, rfl⟩ := h
    cases rest with
    | none => simpa [behind] using cut_of_not_mem hhead
    | some t => exact cut_append hhead t

/-- What follows a separator leaves the part before the first one as it is. -/
theorem cut_append_fst (sep : Char) (s t : List Char) :
    (cut sep (s ++ sep :: t)).1 = (cut sep s).1 := by
  induction s with
  | nil => simp [cut]
  | cons c s ih =>
      by_cases hc : c = sep
      · simp [cut, hc]
      · simp only [cut] at ih
        simp [cut, hc, ih]

/-- A text that holds a separator has a last one. -/
theorem exists_append_last {sep : Char} {s : List Char} (h : sep ∈ s) :
    ∃ before last, s = before ++ sep :: last ∧ sep ∉ last := by
  induction s with
  | nil => simp at h
  | cons c s ih =>
      by_cases hs : sep ∈ s
      · obtain ⟨before, last, rfl, hlast⟩ := ih hs
        exact ⟨c :: before, last, rfl, hlast⟩
      · have hc : sep = c := (List.mem_cons.mp h).resolve_right hs
        exact ⟨[], s, by rw [hc]; rfl, hs⟩

theorem splitTrailing_append (p : Char → Bool) (s : List Char) :
    (splitTrailing p s).1 ++ (splitTrailing p s).2 = s := by
  rw [splitTrailing, ← List.reverse_append, List.takeWhile_append_dropWhile, List.reverse_reverse]

/-! ## What the parts are -/

theorem all_splitTrailing (p : Char → Bool) (s : List Char) :
    ∀ c ∈ (splitTrailing p s).2, p c = true := by
  intro c hc
  have hc' : c ∈ s.reverse.takeWhile p := by simpa [splitTrailing] using hc
  exact List.all_eq_true.mp List.all_takeWhile c hc'

/-- The run is the longest one: what stands right before it is not in `p`. -/
theorem getLast?_splitTrailing (p : Char → Bool) (s : List Char) :
    ∀ c ∈ (splitTrailing p s).1.getLast?, p c = false := by
  intro c hc
  rw [splitTrailing, List.getLast?_reverse] at hc
  have h := List.head?_dropWhile_not p s.reverse
  rw [hc] at h
  simpa using h

/-- There is one way to write a text as a run of characters in `p` behind a text that does not end
in one. -/
theorem splitTrailing_eq_iff {p : Char → Bool} {s head run : List Char} :
    splitTrailing p s = (head, run) ↔
      s = head ++ run ∧ (∀ c ∈ run, p c = true) ∧ ∀ c ∈ head.getLast?, p c = false := by
  constructor
  · intro h
    have hs := splitTrailing_append p s
    have hrun := all_splitTrailing p s
    have hhead := getLast?_splitTrailing p s
    rw [h] at hs hrun hhead
    exact ⟨hs.symm, hrun, hhead⟩
  · intro h
    obtain ⟨rfl, hrun, hhead⟩ := h
    have hrun' : ∀ c ∈ run.reverse, p c = true := by simpa using hrun
    rw [splitTrailing, List.reverse_append, List.takeWhile_append_of_pos hrun',
      List.dropWhile_append_of_pos hrun']
    rw [← List.head?_reverse] at hhead
    cases hlast : head.reverse with
    | nil =>
        obtain rfl : head = [] := by simpa using hlast
        simp
    | cons c rest =>
        have hc : p c = false := hhead c (by simp [hlast])
        have hhead' : head = (c :: rest).reverse := by simp [← hlast]
        simp [hc, hhead']

/-- `run` is the longest final part of `s` that holds only characters in `p`, and `head` is what
precedes it. -/
structure IsTrailingRun (p : Char → Bool) (s head run : List Char) : Prop where
  append : s = head ++ run
  all : ∀ c ∈ run, p c = true
  longest : ∀ other, other <:+ s → (∀ c ∈ other, p c = true) → other.length ≤ run.length

/-- A run that does not follow a character in `p` is the longest one. -/
theorem isTrailingRun_of_splitTrailing {p : Char → Bool} {s head run : List Char}
    (h : splitTrailing p s = (head, run)) : IsTrailingRun p s head run := by
  obtain ⟨rfl, hrun, hhead⟩ := splitTrailing_eq_iff.mp h
  refine ⟨rfl, hrun, ?_⟩
  intro other hother hall
  rcases List.suffix_or_suffix_of_suffix hother (List.suffix_append head run) with hle | hge
  · exact hle.length_le
  · obtain ⟨front, rfl⟩ := hge
    obtain ⟨before, hbefore⟩ := hother
    have hfront : before ++ front = head := List.append_cancel_right (by simpa using hbefore)
    cases hlast : front.getLast? with
    | none =>
        obtain rfl : front = [] := List.getLast?_eq_none_iff.mp hlast
        simp
    | some c =>
        -- the character before the run would be in `p`
        have hc : p c = true := hall c (List.mem_append_left run (List.mem_of_getLast? hlast))
        have hno : p c = false := hhead c (by rw [← hfront, List.getLast?_append, hlast]; rfl)
        rw [hno] at hc
        contradiction

/-- Splitting finds the longest run. -/
theorem splitTrailing_eq_iff_isTrailingRun {p : Char → Bool} {s head run : List Char} :
    splitTrailing p s = (head, run) ↔ IsTrailingRun p s head run := by
  refine ⟨isTrailingRun_of_splitTrailing, ?_⟩
  intro h
  refine splitTrailing_eq_iff.mpr ⟨h.append, h.all, ?_⟩
  intro c hc
  obtain ⟨before, hhead⟩ := List.getLast?_eq_some_iff.mp hc
  rw [← Bool.not_eq_true]
  intro hp
  have hsuffix : c :: run <:+ s := ⟨before, by simp [h.append, hhead]⟩
  have hle := h.longest (c :: run) hsuffix (List.forall_mem_cons.mpr ⟨hp, h.all⟩)
  exact Nat.not_succ_le_self run.length hle

/-- Only separators are left out of the pieces. -/
theorem eq_or_exists_mem_splitOn (sep : Char) {c : Char} {s : List Char} (h : c ∈ s) :
    c = sep ∨ ∃ piece ∈ s.splitOn sep, c ∈ piece := by
  induction s with
  | nil => simp at h
  | cons a s ih =>
      rw [List.splitOn_cons_eq_if_modifyHead]
      by_cases ha : a = sep
      · subst ha
        rcases List.mem_cons.mp h with rfl | h
        · exact .inl rfl
        · simpa using ih h
      · simp only [beq_iff_eq, ha, if_false]
        obtain ⟨piece, pieces, hs⟩ := List.exists_cons_of_ne_nil (List.splitOn_ne_nil sep s)
        rw [hs] at ih ⊢
        rcases List.mem_cons.mp h with rfl | h
        · exact .inr ⟨c :: piece, by simp, by simp⟩
        · rcases ih h with hsep | ⟨other, hother, hc⟩
          · exact .inl hsep
          · rcases List.mem_cons.mp hother with rfl | hother
            · exact .inr ⟨a :: other, by simp, List.mem_cons_of_mem a hc⟩
            · exact .inr ⟨other, by simp [hother], hc⟩

/-- No piece holds a character that is split at. -/
theorem eq_false_of_mem_splitOnP {p : Char → Bool} {s piece : List Char}
    (h : piece ∈ s.splitOnP p) : ∀ c ∈ piece, p c = false := by
  induction s generalizing piece with
  | nil =>
      obtain rfl : piece = [] := by simpa [List.splitOnP_nil] using h
      simp
  | cons a s ih =>
      obtain ⟨first, pieces, hs⟩ := List.exists_cons_of_ne_nil (List.splitOnP_ne_nil p s)
      rw [List.splitOnP_cons_eq_if_modifyHead] at h
      rw [hs] at h ih
      by_cases ha : p a = true
      · simp only [ha, if_true] at h
        rcases List.mem_cons.mp h with rfl | h
        · simp
        · exact ih h
      · simp only [ha, Bool.false_eq_true, if_false, List.modifyHead_cons, List.mem_cons] at h
        rcases h with rfl | h
        · have hfirst := ih List.mem_cons_self
          simpa [ha] using hfirst
        · exact ih (List.mem_cons_of_mem first h)

/-- No piece holds the separator. -/
theorem not_mem_of_mem_splitOn {sep : Char} {s piece : List Char} (h : piece ∈ s.splitOn sep) :
    sep ∉ piece := by
  rw [List.splitOn_eq_splitOnP] at h
  intro hmem
  simpa using eq_false_of_mem_splitOnP h sep hmem

/-- A doubled character is a run of two of it. -/
theorem doubled_iff (c : Char) (s : List Char) : doubled c s = true ↔ [c, c] <:+: s := by
  induction s with
  | nil => simp [doubled]
  | cons a s ih =>
      rw [List.infix_cons_iff, ← ih, List.cons_prefix_cons]
      cases s with
      | nil => simp [doubled]
      | cons b rest =>
          rw [List.cons_prefix_cons]
          simp only [doubled, Bool.or_eq_true, Bool.and_eq_true, beq_iff_eq, List.nil_prefix,
            and_true]
          rw [eq_comm (a := c) (b := a), eq_comm (a := c) (b := b)]

/-- Where two texts meet, a doubled character takes one from each. -/
theorem doubled_append_iff (c : Char) (s t : List Char) :
    [c, c] <:+: s ++ t ↔
      [c, c] <:+: s ∨ [c, c] <:+: t ∨ s.getLast? = some c ∧ t.head? = some c := by
  rw [List.infix_append_iff_ne_nil]
  refine or_congr Iff.rfl (or_congr Iff.rfl ?_)
  constructor
  · intro h
    obtain ⟨u, v, hu, hv, huv, ⟨before, rfl⟩, ⟨after, rfl⟩⟩ := h
    have hlength : u.length = 1 := by
      have hsum := congrArg List.length huv
      have hu' := List.length_pos_iff.mpr hu
      have hv' := List.length_pos_iff.mpr hv
      simp only [List.length_cons, List.length_nil, List.length_append] at hsum
      omega
    obtain ⟨a, rfl⟩ := List.length_eq_one_iff.mp hlength
    obtain ⟨rfl, rfl⟩ : c = a ∧ [c] = v := List.cons.inj huv
    simp
  · intro h
    obtain ⟨hs, ht⟩ := h
    obtain ⟨before, rfl⟩ := List.getLast?_eq_some_iff.mp hs
    obtain ⟨after, rfl⟩ := List.head?_eq_some_iff.mp ht
    exact ⟨[c], [c], by simp, by simp, rfl, ⟨before, rfl⟩, ⟨after, rfl⟩⟩

/-- Another character keeps doubled characters apart. -/
theorem doubled_append_cons_iff {c d : Char} (h : d ≠ c) (s t : List Char) :
    [c, c] <:+: s ++ d :: t ↔ [c, c] <:+: s ∨ [c, c] <:+: t := by
  have hcons : [c, c] <:+: d :: t ↔ [c, c] <:+: t := by
    rw [List.infix_cons_iff, List.cons_prefix_cons]
    simp [Ne.symm h]
  rw [doubled_append_iff, hcons]
  simp [h]

/-- Doubled characters stand in one of the pieces between separators. -/
theorem doubled_intercalate_iff {c sep : Char} (h : sep ≠ c) (pieces : List (List Char)) :
    [c, c] <:+: [sep].intercalate pieces ↔ ∃ piece ∈ pieces, [c, c] <:+: piece := by
  induction pieces with
  | nil => simp
  | cons piece pieces ih =>
      cases pieces with
      | nil => simp
      | cons next pieces =>
          rw [List.intercalate_cons_cons, List.append_assoc, List.singleton_append,
            doubled_append_cons_iff h, ih]
          simp

/-- Doubled characters stand in one of the pieces that another character divides a text into. -/
theorem doubled_iff_exists_mem_splitOn {c sep : Char} (h : sep ≠ c) (s : List Char) :
    [c, c] <:+: s ↔ ∃ piece ∈ s.splitOn sep, [c, c] <:+: piece := by
  rw [← doubled_intercalate_iff h, List.intercalate_splitOn]

/-- Next to a piece there is a separator or an end of the text. -/
theorem exists_append_of_mem_intercalate (sep : Char) {piece : List Char}
    {pieces : List (List Char)} (h : piece ∈ pieces) :
    ∃ before after, [sep].intercalate pieces = before ++ piece ++ after ∧
      (before = [] ∨ before.getLast? = some sep) ∧ (after = [] ∨ after.head? = some sep) := by
  induction pieces with
  | nil => simp at h
  | cons first pieces ih =>
      cases pieces with
      | nil =>
          obtain rfl : piece = first := List.mem_singleton.mp h
          exact ⟨[], [], by simp, .inl rfl, .inl rfl⟩
      | cons next pieces =>
          rw [List.intercalate_cons_cons]
          rcases List.mem_cons.mp h with rfl | h
          · exact ⟨[], sep :: [sep].intercalate (next :: pieces), by simp, .inl rfl, .inr rfl⟩
          · obtain ⟨before, after, htext, hbefore, hafter⟩ := ih h
            refine ⟨first ++ sep :: before, after, by simp [htext], .inr ?_, hafter⟩
            rcases hbefore with rfl | hlast
            · simp
            · simp [List.getLast?_append, List.getLast?_cons, hlast]

/-- A piece is empty where a separator is doubled or stands at an end of the text. -/
theorem nil_mem_splitOn_iff {sep : Char} {s : List Char} :
    [] ∈ s.splitOn sep ↔
      s = [] ∨ s.head? = some sep ∨ s.getLast? = some sep ∨ [sep, sep] <:+: s := by
  constructor
  · intro h
    obtain ⟨before, after, htext, hbefore, hafter⟩ :=
      exists_append_of_mem_intercalate sep h
    rw [List.intercalate_splitOn, List.append_nil] at htext
    rw [htext]
    rcases hbefore with rfl | hlast
    · rcases hafter with rfl | hhead
      · exact .inl rfl
      · exact .inr (.inl hhead)
    · rcases hafter with rfl | hhead
      · exact .inr (.inr (.inl (by simpa using hlast)))
      · exact .inr (.inr (.inr ((doubled_append_iff sep _ _).mpr (.inr (.inr ⟨hlast, hhead⟩)))))
  · intro h
    rcases h with rfl | hhead | hlast | ⟨before, after, rfl⟩
    · simp
    · obtain ⟨rest, rfl⟩ := List.head?_eq_some_iff.mp hhead
      simp [List.splitOn_cons_eq_if_modifyHead]
    · obtain ⟨before, rfl⟩ := List.getLast?_eq_some_iff.mp hlast
      simp [List.splitOn_append_cons_self]
    · simp [List.splitOn_append_cons_self, List.splitOn_cons_eq_if_modifyHead]

/-- There is one piece more than there are separators. -/
theorem length_splitOn (sep : Char) (s : List Char) :
    (s.splitOn sep).length = s.count sep + 1 := by
  induction s with
  | nil => simp
  | cons c s ih =>
      rw [List.splitOn_cons_eq_if_modifyHead]
      by_cases hc : c = sep
      · simp [hc, ih]
      · simp [hc, ih]

/-- Pieces that are each ended by the separator are found again, with nothing behind the last. -/
theorem splitOn_flatMap_append {sep : Char} {pieces : List (List Char)}
    (h : ∀ piece ∈ pieces, sep ∉ piece) :
    (pieces.flatMap (· ++ [sep])).splitOn sep = pieces ++ [[]] := by
  induction pieces with
  | nil => simp
  | cons piece pieces ih =>
      rw [List.forall_mem_cons] at h
      rw [List.flatMap_cons, List.append_assoc, List.singleton_append,
        List.splitOn_append_cons_self, List.splitOn_eq_singleton h.1, ih h.2]
      rfl

/-! ## Words between dots -/

/-- One or more words with dots between them. -/
def IsDotSeparated (p : List Char → Prop) (s : List Char) : Prop :=
  ∃ words, words ≠ [] ∧ (∀ word ∈ words, p word) ∧ s = ['.'].intercalate words

/-- Words with dots between them, as a part that is missing when there are no words. -/
def joined : List (List Char) → Option (List Char)
  | [] => none
  | first :: rest => some (['.'].intercalate (first :: rest))

theorem joined_eq_some_iff {words : List (List Char)} {s : List Char} :
    joined words = some s ↔ words ≠ [] ∧ s = ['.'].intercalate words := by
  cases words <;> simp [joined, eq_comm]

theorem intercalate_cons (word : List Char) (words : List (List Char)) :
    ['.'].intercalate (word :: words) = word ++ (words.map ('.' :: ·)).flatten := by
  induction words generalizing word with
  | nil => simp
  | cons next words ih => simp [List.intercalate_cons_cons, ih next]

/-- Words between dots hold no characters but theirs and the dots. -/
theorem eq_dot_or_mem_of_mem_intercalate {c : Char} {words : List (List Char)}
    (h : c ∈ ['.'].intercalate words) : c = '.' ∨ ∃ word ∈ words, c ∈ word := by
  induction words with
  | nil => simp at h
  | cons word words ih =>
      cases words with
      | nil => exact .inr ⟨word, by simp, by simpa using h⟩
      | cons next words =>
          simp only [List.intercalate_cons_cons, List.mem_append, List.mem_singleton] at h
          rcases h with (hword | hdot) | hrest
          · exact .inr ⟨word, by simp, hword⟩
          · exact .inl hdot
          · rcases ih hrest with hdot | ⟨other, hother, hc⟩
            · exact .inl hdot
            · exact .inr ⟨other, List.mem_cons_of_mem word hother, hc⟩

end ModuleId.Text
