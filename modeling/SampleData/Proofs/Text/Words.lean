import SampleData.Text.Blank

/-!
# Words and the gaps between them

Cutting a text into words forgets how long its gaps are and of which blanks they consist, and
nothing else: two texts with the same words are the same but for their gaps.
-/

namespace SampleData

namespace Text

def IsGap (text : List Char) : Prop :=
  ∀ c ∈ text, isBlank c = true

def IsSolid (text : List Char) : Prop :=
  ∀ c ∈ text, isBlank c = false

/-- No word goes on at the start of a text. -/
def AtBreak (text : List Char) : Prop :=
  text = [] ∨ ∃ c back, text = c :: back ∧ isBlank c = true

/--
What holds in a text is decided by going through the text, not through all characters there are.
-/
instance decidableForallMem (p : Char → Prop) [DecidablePred p] (text : List Char) :
    Decidable (∀ c ∈ text, p c) :=
  List.decidableBAll p text

instance : DecidablePred IsGap := fun _ => inferInstanceAs (Decidable (∀ _ ∈ _, _))

instance : DecidablePred IsSolid := fun _ => inferInstanceAs (Decidable (∀ _ ∈ _, _))

theorem isGap_nil : IsGap [] := nofun

theorem isSolid_nil : IsSolid [] := nofun

theorem isGap_cons_iff {c : Char} {text : List Char} :
    IsGap (c :: text) ↔ isBlank c = true ∧ IsGap text := List.forall_mem_cons

theorem isSolid_cons_iff {c : Char} {text : List Char} :
    IsSolid (c :: text) ↔ isBlank c = false ∧ IsSolid text := List.forall_mem_cons

theorem isSolid_append_iff {front back : List Char} :
    IsSolid (front ++ back) ↔ IsSolid front ∧ IsSolid back := List.forall_mem_append

theorem AtBreak.head?_ne {text : List Char} (h : AtBreak text) {c : Char} (hc : isBlank c = false) :
    text.head? ≠ some c := by
  rcases h with rfl | ⟨d, back, rfl, hd⟩
  · simp
  · intro heq
    rw [List.head?_cons, Option.some.injEq] at heq
    rw [heq, hc] at hd
    cases hd

theorem atBreak_gap_append {gap : List Char} (hne : gap ≠ []) (h : IsGap gap) (text : List Char) :
    AtBreak (gap ++ text) := by
  cases gap with
  | nil => exact absurd rfl hne
  | cons c gap => exact Or.inr ⟨c, gap ++ text, rfl, (isGap_cons_iff.1 h).1⟩

theorem atBreak_of_isGap {gap : List Char} (h : IsGap gap) : AtBreak gap := by
  by_cases hne : gap = []
  · exact Or.inl hne
  · have hbreak := atBreak_gap_append hne h []
    rwa [List.append_nil] at hbreak

/-! ## Words -/

theorem words_nil : words [] = [] := by
  simp [words]

theorem words_cons_blank {c : Char} (hc : isBlank c = true) (text : List Char) :
    words (c :: text) = words text := by
  have happend := words_append_blank hc [] text
  rwa [words_nil, List.nil_append, List.nil_append] at happend

theorem words_gap_append {gap : List Char} (h : IsGap gap) (text : List Char) :
    words (gap ++ text) = words text := by
  induction gap with
  | nil => rfl
  | cons c gap ih =>
      obtain ⟨hc, hgap⟩ := isGap_cons_iff.1 h
      rw [List.cons_append, words_cons_blank hc, ih hgap]

theorem words_of_isGap {gap : List Char} (h : IsGap gap) : words gap = [] := by
  have hwords := words_gap_append h []
  rwa [List.append_nil, words_nil] at hwords

theorem words_of_isSolid {word : List Char} (hne : word ≠ []) (h : IsSolid word) :
    words word = [word] := by
  rw [words, List.splitOnP_eq_singleton h]
  simp [hne]

theorem words_append_gap {gap : List Char} (hne : gap ≠ []) (h : IsGap gap)
    (front back : List Char) : words (front ++ (gap ++ back)) = words front ++ words back := by
  cases gap with
  | nil => exact absurd rfl hne
  | cons c gap =>
      obtain ⟨hc, hgap⟩ := isGap_cons_iff.1 h
      rw [List.cons_append, words_append_blank hc, words_gap_append hgap]

theorem words_append_atBreak (front : List Char) {back : List Char} (h : AtBreak back) :
    words (front ++ back) = words front ++ words back := by
  rcases h with rfl | ⟨c, rest, rfl, hc⟩
  · rw [List.append_nil, words_nil, List.append_nil]
  · rw [words_append_blank hc, words_cons_blank hc]

theorem words_cons_append_gap {word : List Char} (hword : word ≠ []) (hsolid : IsSolid word)
    {gap : List Char} (hne : gap ≠ []) (h : IsGap gap) (back : List Char) :
    words (word ++ (gap ++ back)) = word :: words back := by
  rw [words_append_gap hne h, words_of_isSolid hword hsolid, List.singleton_append]

/-- A text is a gap, or it has a first word and what stands behind it starts with a gap. -/
theorem exists_first_word (text : List Char) :
    IsGap text ∨ ∃ gap word rest, text = gap ++ (word ++ rest) ∧ IsGap gap ∧ word ≠ [] ∧
      IsSolid word ∧ AtBreak rest := by
  have hgap : ∀ c ∈ text.takeWhile isBlank, isBlank c = true :=
    List.all_eq_true.1 List.all_takeWhile
  have htext := List.takeWhile_append_dropWhile (p := isBlank) (l := text)
  cases hrest : text.dropWhile isBlank with
  | nil =>
      rw [hrest, List.append_nil] at htext
      exact Or.inl (htext ▸ hgap)
  | cons first others =>
      have hfirst : isBlank first = false := by
        have hhead := List.head?_dropWhile_not isBlank text
        rw [hrest] at hhead
        simpa using hhead
      let isLetter (c : Char) : Bool := !isBlank c
      have hsolid : ∀ c ∈ (first :: others).takeWhile isLetter, isBlank c = false := by
        intro c hc
        have hletter := List.all_eq_true.1 List.all_takeWhile c hc
        simpa [isLetter] using hletter
      refine Or.inr ⟨text.takeWhile isBlank, (first :: others).takeWhile isLetter,
        (first :: others).dropWhile isLetter, ?_, hgap, ?_, hsolid, ?_⟩
      · rw [List.takeWhile_append_dropWhile, ← hrest, htext]
      · simp [isLetter, hfirst]
      · cases hback : (first :: others).dropWhile isLetter with
        | nil => exact Or.inl rfl
        | cons c back =>
            have hhead := List.head?_dropWhile_not isLetter (first :: others)
            rw [hback] at hhead
            exact Or.inr ⟨c, back, rfl, by simpa [isLetter] using hhead⟩

theorem words_of_first_word {gap word rest : List Char} (hgap : IsGap gap) (hword : word ≠ [])
    (hsolid : IsSolid word) (hrest : AtBreak rest) :
    words (gap ++ (word ++ rest)) = word :: words rest := by
  rw [words_gap_append hgap, words_append_atBreak word hrest, words_of_isSolid hword hsolid,
    List.singleton_append]

theorem isGap_of_words_eq_nil {text : List Char} (h : words text = []) : IsGap text := by
  rcases exists_first_word text with hgap | ⟨gap, word, rest, rfl, hgap, hword, hsolid, hrest⟩
  · exact hgap
  · rw [words_of_first_word hgap hword hsolid hrest] at h
    cases h

theorem exists_of_words_eq_cons {text word : List Char} {others : List (List Char)}
    (h : words text = word :: others) :
    ∃ gap rest, text = gap ++ (word ++ rest) ∧ IsGap gap ∧ word ≠ [] ∧ IsSolid word ∧
      AtBreak rest ∧ words rest = others := by
  rcases exists_first_word text with hgap | ⟨gap, first, rest, rfl, hgap, hword, hsolid, hrest⟩
  · rw [words_of_isGap hgap] at h
    cases h
  · rw [words_of_first_word hgap hword hsolid hrest] at h
    cases h
    exact ⟨gap, rest, rfl, hgap, hword, hsolid, hrest, rfl⟩

theorem mem_words {text word : List Char} (h : word ∈ words text) : word ≠ [] ∧ IsSolid word := by
  generalize hwords : words text = list at h
  induction list generalizing text with
  | nil => cases h
  | cons first others ih =>
      obtain ⟨_, rest, -, -, hword, hsolid, -, hothers⟩ := exists_of_words_eq_cons hwords
      rcases List.mem_cons.1 h with rfl | hmem
      · exact ⟨hword, hsolid⟩
      · exact ih hothers hmem

theorem flatten_words (text : List Char) : (words text).flatten = text.filter fun c => !isBlank c := by
  have hgone : ∀ {gap : List Char}, IsGap gap → (gap.filter fun c => !isBlank c) = [] := by
    intro gap hgap
    exact List.filter_eq_nil_iff.2 fun c hc => by simp [hgap c hc]
  generalize hwords : words text = list
  induction list generalizing text with
  | nil => rw [hgone (isGap_of_words_eq_nil hwords), List.flatten_nil]
  | cons word others ih =>
      obtain ⟨gap, rest, rfl, hgap, -, hsolid, -, hothers⟩ := exists_of_words_eq_cons hwords
      have hkept : (word.filter fun c => !isBlank c) = word :=
        List.filter_eq_self.2 fun c hc => by simp [hsolid c hc]
      rw [List.filter_append, List.filter_append, hgone hgap, hkept, List.nil_append,
        List.flatten_cons, ih rest hothers]

theorem trimStart_gap_append {gap : List Char} (h : IsGap gap) (text : List Char) :
    trimStart (gap ++ text) = trimStart text := by
  unfold trimStart
  exact List.dropWhile_append_of_pos h

theorem trimStart_gap {gap : List Char} (h : IsGap gap) : trimStart gap = [] := by
  have htrim := trimStart_gap_append h []
  rwa [List.append_nil] at htrim

theorem trimStart_word_append {word : List Char} (hne : word ≠ []) (h : IsSolid word)
    (rest : List Char) : trimStart (word ++ rest) = word ++ rest := by
  cases word with
  | nil => exact absurd rfl hne
  | cons c word =>
      have hc : isBlank c = false := h c List.mem_cons_self
      simp [trimStart, hc]

theorem exists_gap_append_trimStart (text : List Char) :
    ∃ gap, IsGap gap ∧ gap ++ trimStart text = text :=
  ⟨text.takeWhile isBlank, List.all_eq_true.1 List.all_takeWhile, List.takeWhile_append_dropWhile⟩

theorem exists_trimEnd_append_gap (text : List Char) :
    ∃ gap, IsGap gap ∧ trimEnd text ++ gap = text := by
  obtain ⟨gap, hgap, htext⟩ := exists_gap_append_trimStart text.reverse
  refine ⟨gap.reverse, fun c hc => hgap c (List.mem_reverse.1 hc), ?_⟩
  rw [trimEnd, dropEndWhile, ← List.reverse_append]
  exact List.reverse_eq_iff.2 htext

theorem words_trimStart (text : List Char) : words (trimStart text) = words text := by
  obtain ⟨gap, hgap, htext⟩ := exists_gap_append_trimStart text
  have hwords := words_gap_append hgap (trimStart text)
  rw [htext] at hwords
  exact hwords.symm

theorem words_trimEnd (text : List Char) : words (trimEnd text) = words text := by
  obtain ⟨gap, hgap, htext⟩ := exists_trimEnd_append_gap text
  cases gap with
  | nil =>
      rw [List.append_nil] at htext
      rw [htext]
  | cons c gap =>
      have hwords := words_append_gap (List.cons_ne_nil c gap) hgap (trimEnd text) []
      rw [words_nil, List.append_nil, List.append_nil, htext] at hwords
      exact hwords.symm

theorem words_trim (text : List Char) : words (trim text) = words text := by
  rw [trim, words_trimEnd, words_trimStart]

theorem dropEndWhile_sublist (p : Char → Bool) (text : List Char) :
    (dropEndWhile p text).Sublist text := by
  have h := (List.dropWhile_sublist p : (text.reverse.dropWhile p).Sublist _).reverse
  rwa [List.reverse_reverse] at h

theorem trimWhile_sublist (p : Char → Bool) (text : List Char) : (trimWhile p text).Sublist text :=
  (dropEndWhile_sublist p _).trans (List.dropWhile_sublist p)

theorem dropEndWhile_eq_self {p : Char → Bool} {text : List Char} (h : ∀ c ∈ text, p c = false) :
    dropEndWhile p text = text := by
  have hreverse : text.reverse.dropWhile p = text.reverse := by
    cases hcases : text.reverse with
    | nil => rfl
    | cons c back =>
        have hc : c ∈ text := List.mem_reverse.1 (hcases ▸ List.mem_cons_self)
        rw [List.dropWhile_cons_of_neg (by simp [h c hc])]
  rw [dropEndWhile, hreverse, List.reverse_reverse]

theorem trimWhile_eq_self {p : Char → Bool} {text : List Char} (h : ∀ c ∈ text, p c = false) :
    trimWhile p text = text := by
  have hstart : text.dropWhile p = text := by
    cases text with
    | nil => rfl
    | cons c back => rw [List.dropWhile_cons_of_neg (by simp [h c List.mem_cons_self])]
  rw [trimWhile, hstart, dropEndWhile_eq_self h]

theorem trim_eq_self {text : List Char} (h : IsSolid text) : trim text = text :=
  trimWhile_eq_self h

theorem trimEnd_append_gap {gap : List Char} (h : IsGap gap) (text : List Char) :
    trimEnd (text ++ gap) = trimEnd text := by
  have hreverse : ∀ c ∈ gap.reverse, isBlank c = true := fun c hc => h c (List.mem_reverse.1 hc)
  rw [trimEnd, dropEndWhile, List.reverse_append, List.dropWhile_append_of_pos hreverse]
  rfl

theorem trim_between {before behind : List Char} (hbefore : IsGap before) (hbehind : IsGap behind)
    (text : List Char) : trim (before ++ (text ++ behind)) = trim text := by
  rw [trim, trimStart_gap_append hbefore, trimStart, List.dropWhile_append]
  split
  case isTrue hempty => rw [← trimStart, trimStart_gap hbehind, trim, trimStart, List.isEmpty_iff.1 hempty]
  case isFalse => exact trimEnd_append_gap hbehind _

theorem exists_gaps_around_trim (text : List Char) :
    ∃ before behind, IsGap before ∧ IsGap behind ∧ before ++ (trim text ++ behind) = text := by
  obtain ⟨before, hbefore, hstart⟩ := exists_gap_append_trimStart text
  obtain ⟨behind, hbehind, hend⟩ := exists_trimEnd_append_gap (trimStart text)
  exact ⟨before, behind, hbefore, hbehind, by rw [trim, hend, hstart]⟩

theorem trim_trim (text : List Char) : trim (trim text) = trim text := by
  obtain ⟨before, behind, hbefore, hbehind, htext⟩ := exists_gaps_around_trim text
  have htrim := trim_between hbefore hbehind (trim text)
  rw [htext] at htrim
  exact htrim.symm

/-! ## Texts with the same words -/

/-- The same text but for its gaps, of which none may vanish but at the end. -/
inductive Respaced : List Char → List Char → Prop
  | ends {gap other : List Char} (hgap : IsGap gap) (hother : IsGap other) : Respaced gap other
  | letter {c : Char} {text other : List Char} (hc : isBlank c = false)
      (h : Respaced text other) : Respaced (c :: text) (c :: other)
  | gap {gap between text other : List Char} (hne : gap ≠ []) (hgap : IsGap gap)
      (hbetween : between ≠ []) (hgap' : IsGap between) (h : Respaced text other) :
      Respaced (gap ++ text) (between ++ other)

theorem Respaced.append_word {word text other : List Char} (hword : IsSolid word)
    (h : Respaced text other) : Respaced (word ++ text) (word ++ other) := by
  induction word with
  | nil => exact h
  | cons c word ih =>
      obtain ⟨hc, hword⟩ := isSolid_cons_iff.1 hword
      exact .letter hc (ih hword)

/-- Behind any part of a word, respaced texts go on with the same words. -/
theorem Respaced.words_append {text other : List Char} (h : Respaced text other)
    {part : List Char} (hpart : IsSolid part) : words (part ++ text) = words (part ++ other) := by
  have hends : ∀ {gap : List Char}, IsGap gap → ∀ {part : List Char}, IsSolid part →
      words (part ++ gap) = words part := by
    intro gap hgap part _
    cases gap with
    | nil => rw [List.append_nil]
    | cons c gap =>
        have hwords := words_append_gap (List.cons_ne_nil c gap) hgap part []
        rwa [words_nil, List.append_nil, List.append_nil] at hwords
  -- each letter that is passed goes to the part, so the part is left general
  induction h generalizing part with
  | ends hgap hother => rw [hends hgap hpart, hends hother hpart]
  | @letter c text other hc _ ih =>
      have hlonger : IsSolid (part ++ [c]) :=
        isSolid_append_iff.2 ⟨hpart, isSolid_cons_iff.2 ⟨hc, isSolid_nil⟩⟩
      have hsame := ih hlonger
      rwa [List.append_assoc, List.append_assoc] at hsame
  | gap hne hgap hbetween hgap' _ ih =>
      rw [words_append_gap hne hgap, words_append_gap hbetween hgap']
      exact congrArg (words part ++ ·) (ih isSolid_nil)

theorem Respaced.words_eq {text other : List Char} (h : Respaced text other) :
    words text = words other :=
  h.words_append isSolid_nil

theorem Respaced.atBreak_or_letter {text other : List Char} (h : Respaced text other) :
    AtBreak text ∧ AtBreak other ∨ ∃ c back rest, text = c :: back ∧ other = c :: rest ∧
      isBlank c = false ∧ Respaced back rest := by
  cases h with
  | ends hgap hother => exact Or.inl ⟨atBreak_of_isGap hgap, atBreak_of_isGap hother⟩
  | letter hc h => exact Or.inr ⟨_, _, _, rfl, rfl, hc, h⟩
  | gap hne hgap hbetween hgap' _ =>
      exact Or.inl ⟨atBreak_gap_append hne hgap _, atBreak_gap_append hbetween hgap' _⟩

/-- Texts with the same words are respaced from their first words on. -/
theorem respaced_of_words_eq {text other : List Char} (h : words text = words other) :
    Respaced (trimStart text) (trimStart other) := by
  generalize hwords : words text = list at h
  induction list generalizing text other with
  | nil =>
      rw [trimStart_gap (isGap_of_words_eq_nil hwords), trimStart_gap (isGap_of_words_eq_nil h.symm)]
      exact .ends isGap_nil isGap_nil
  | cons word others ih =>
      obtain ⟨gap, rest, rfl, hgap, hword, hsolid, hrest, hothers⟩ := exists_of_words_eq_cons hwords
      obtain ⟨front, back, rfl, hfront, -, -, hback, hsame⟩ := exists_of_words_eq_cons h.symm
      rw [trimStart_gap_append hgap, trimStart_gap_append hfront, trimStart_word_append hword hsolid,
        trimStart_word_append hword hsolid]
      refine Respaced.append_word hsolid ?_
      have htail := ih hothers hsame.symm
      have hsplit (text : List Char) : text.takeWhile isBlank ++ trimStart text = text :=
        List.takeWhile_append_dropWhile
      have hblank (text : List Char) : IsGap (text.takeWhile isBlank) :=
        List.all_eq_true.1 List.all_takeWhile
      -- with another word to come both gaps have a blank, without one either may be empty
      cases others with
      | nil => exact .ends (isGap_of_words_eq_nil hothers) (isGap_of_words_eq_nil hsame)
      | cons second others =>
          rcases hrest with rfl | ⟨c, tail, rfl, hc⟩
          · rw [words_nil] at hothers
            cases hothers
          · rcases hback with rfl | ⟨d, later, rfl, hd⟩
            · rw [words_nil] at hsame
              cases hsame
            · rw [← hsplit (c :: tail), ← hsplit (d :: later)]
              exact .gap (by simp [hc]) (hblank _) (by simp [hd]) (hblank _) htail

end Text

end SampleData
