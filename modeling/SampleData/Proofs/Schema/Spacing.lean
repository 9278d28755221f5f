import Mathlib.Data.List.Forall2
import SampleData.Proofs.Text.Search
import SampleData.Schema.Discovery

/-!
# Spacing of schema files

What a statement defines depends on its words alone, and what a schema file defines on the
words of its lines that are no comments.  The assertions are the reason to look closer: they
are sought in the text of the statement, over the gaps between its words.
-/

namespace SampleData

namespace Text

theorem isDecimalDigit_blank {c : Char} (h : isBlank c = true) : isDecimalDigit c = false := by
  have hapart : ∀ range ∈ blankRanges, ∀ first ∈ digitZeros,
      range.2 < first ∨ first + 10 ≤ range.1 := by decide +kernel
  obtain ⟨range, hrange, hin⟩ := List.any_eq_true.1 h
  simp only [Bool.and_eq_true, decide_eq_true_eq] at hin
  refine List.any_eq_false.2 fun first hfirst => ?_
  have hbounds := hapart range hrange first hfirst
  simp only [Bool.and_eq_true, decide_eq_true_eq]
  omega

theorem Respaced.trimStart {text other : List Char} (h : Respaced text other) :
    Respaced (trimStart text) (trimStart other) :=
  respaced_of_words_eq h.words_eq

theorem Respaced.takeWhile_decimalDigits {text other : List Char} (h : Respaced text other) :
    text.takeWhile isDecimalDigit = other.takeWhile isDecimalDigit := by
  have hbreak : ∀ {text : List Char}, AtBreak text → text.takeWhile isDecimalDigit = [] := by
    intro text htext
    rcases htext with rfl | ⟨c, back, rfl, hc⟩
    · rfl
    · simp [isDecimalDigit_blank hc]
  generalize hlength : text.length = length
  induction length using Nat.strongRecOn generalizing text other with
  | ind length ih =>
      rcases h.atBreak_or_letter with ⟨htext, hother⟩ | ⟨c, back, rest, rfl, rfl, -, h⟩
      · rw [hbreak htext, hbreak hother]
      · have hrest := ih back.length (by simp [← hlength]) h rfl
        rw [List.takeWhile_cons, List.takeWhile_cons, hrest]

theorem Respaced.isPrefixOf_eq {sought : List Char} (hsolid : IsSolid sought)
    {text other : List Char} (h : Respaced text other) :
    sought.isPrefixOf text = sought.isPrefixOf other := by
  induction sought generalizing text other with
  | nil => rw [List.isPrefixOf_nil_left, List.isPrefixOf_nil_left]
  | cons o others ih =>
      obtain ⟨ho, hothers⟩ := isSolid_cons_iff.1 hsolid
      have hbreak : ∀ {text : List Char}, AtBreak text → (o :: others).isPrefixOf text = false := by
        intro text htext
        rcases htext with rfl | ⟨c, back, rfl, hc⟩
        · rfl
        · have hne : (o == c) = false := beq_false_of_ne fun h => by simp [← h, ho] at hc
          simp [List.isPrefixOf, hne]
      rcases h.atBreak_or_letter with ⟨htext, hother⟩ | ⟨c, back, rest, rfl, rfl, -, h⟩
      · rw [hbreak htext, hbreak hother]
      · simp [List.isPrefixOf, ih hothers h]

end Text

namespace Schema

open Text

/-! ## Assertions -/

theorem foldedLetter_blank {c : Char} (h : isBlank c = true) : foldedLetter c = c := by
  have hlong : c.toNat ≠ 0x17F := by
    intro heq
    have hc : c = Char.ofNat 0x17F := by rw [← heq, Char.ofNat_toNat]
    rw [hc] at h
    exact absurd h (by decide)
  rw [foldedLetter, if_neg hlong, lowerChar_blank h]

theorem afterFolded?_atBreak {opening : List Char} (hne : opening ≠ []) (hsolid : IsSolid opening)
    {text : List Char} (h : AtBreak text) : afterFolded? opening text = none := by
  cases opening with
  | nil => exact absurd rfl hne
  | cons o opening =>
      rcases h with rfl | ⟨c, back, rfl, hc⟩
      · rfl
      · have hc' : o ≠ foldedLetter c := by
          intro heq
          rw [foldedLetter_blank hc] at heq
          rw [← heq, (isSolid_cons_iff.1 hsolid).1] at hc
          cases hc
        rw [afterFolded?, if_neg hc']

theorem afterFolded?_respaced {opening : List Char} (hsolid : IsSolid opening)
    {text other : List Char} (h : Respaced text other) :
    Option.Rel Respaced (afterFolded? opening text) (afterFolded? opening other) := by
  induction opening generalizing text other with
  | nil => exact .some h
  | cons o opening ih =>
      rcases h.atBreak_or_letter with ⟨htext, hother⟩ | ⟨c, back, rest, rfl, rfl, -, h⟩
      · rw [afterFolded?_atBreak (by simp) hsolid htext,
          afterFolded?_atBreak (by simp) hsolid hother]
        exact .none
      · simp only [afterFolded?]
        by_cases hc : o = foldedLetter c
        · rw [if_pos hc, if_pos hc]
          exact ih (isSolid_cons_iff.1 hsolid).2 h
        · rw [if_neg hc, if_neg hc]
          exact .none

theorem comparison?_of_ne {text : List Char} (h : text.head? ≠ some '<') : comparison? text = none := by
  unfold comparison?
  split <;> simp_all

theorem comparison?_less {text : List Char} (h : text.head? ≠ some '=') :
    comparison? ('<' :: text) = some (true, text) := by
  unfold comparison?
  split <;> simp_all

theorem comparison?_respaced {text other : List Char} (h : Respaced text other) :
    Option.Rel (fun one two => one.1 = two.1 ∧ Respaced one.2 two.2) (comparison? text)
      (comparison? other) := by
  rcases h.atBreak_or_letter with ⟨htext, hother⟩ | ⟨c, back, rest, rfl, rfl, -, hback⟩
  · rw [comparison?_of_ne (htext.head?_ne (by decide)),
      comparison?_of_ne (hother.head?_ne (by decide))]
    exact .none
  · by_cases hless : c = '<'
    · rw [hless]
      rcases hback.atBreak_or_letter with ⟨hend, hend'⟩ | ⟨d, later, last, rfl, rfl, -, hlater⟩
      · rw [comparison?_less (hend.head?_ne (by decide)),
          comparison?_less (hend'.head?_ne (by decide))]
        exact .some ⟨rfl, hback⟩
      · by_cases hequal : d = '='
        · rw [hequal]
          exact .some ⟨rfl, hlater⟩
        · rw [comparison?_less (by simpa using hequal), comparison?_less (by simpa using hequal)]
          exact .some ⟨rfl, hback⟩
    · rw [comparison?_of_ne (by simpa using hless), comparison?_of_ne (by simpa using hless)]
      exact .none

/-- What is read next from related parts is the same if related parts are read alike. -/
theorem bind_eq_of_rel {α β γ : Type} {r : α → β → Prop} {part : Option α} {other : Option β}
    (h : Option.Rel r part other) {next : α → Option γ} {following : β → Option γ}
    (hnext : ∀ x y, r x y → next x = following y) :
    (part >>= next) = (other >>= following) := by
  cases h with
  | some hrel => exact hnext _ _ hrel
  | none => rfl

theorem assertionAt?_respaced {text other : List Char} (h : Respaced text other) :
    assertionAt? text = assertionAt? other := by
  unfold assertionAt?
  refine bind_eq_of_rel (afterFolded?_respaced (by decide) h) fun _ _ h => ?_
  refine bind_eq_of_rel (afterFolded?_respaced (by decide) h.trimStart) fun _ _ h => ?_
  refine bind_eq_of_rel (afterFolded?_respaced (by decide) h.trimStart) fun _ _ h => ?_
  refine bind_eq_of_rel (comparison?_respaced h.trimStart) fun (strict, _) (_, _) ⟨hstrict, h⟩ => ?_
  simp only at hstrict h
  simp only [hstrict, h.trimStart.takeWhile_decimalDigits]

theorem assertionAt?_atBreak {text : List Char} (h : AtBreak text) : assertionAt? text = none := by
  unfold assertionAt?
  rw [afterFolded?_atBreak (by decide) (by decide) h]
  rfl

theorem assertion?_gap_append {gap : List Char} (h : IsGap gap) (text : List Char) :
    assertion? (gap ++ text) = assertion? text := by
  induction gap with
  | nil => rfl
  | cons c gap ih =>
      obtain ⟨hc, hgap⟩ := isGap_cons_iff.1 h
      rw [List.cons_append, assertion?, assertionAt?_atBreak (Or.inr ⟨c, _, rfl, hc⟩)]
      exact ih hgap

theorem assertion?_respaced {text other : List Char} (h : Respaced text other) :
    assertion? text = assertion? other := by
  have hnone : ∀ {gap : List Char}, IsGap gap → assertion? gap = none := by
    intro gap hgap
    have hempty := assertion?_gap_append hgap []
    rwa [List.append_nil] at hempty
  induction h with
  | ends hgap hother => rw [hnone hgap, hnone hother]
  | letter hc h ih => rw [assertion?, assertion?, ih, assertionAt?_respaced (.letter hc h)]
  | gap _ hgap _ hgap' _ ih => rw [assertion?_gap_append hgap, assertion?_gap_append hgap', ih]

theorem assertion?_of_words_eq {text other : List Char} (h : words text = words other) :
    assertion? text = assertion? other := by
  have htrim : ∀ text, assertion? (trimStart text) = assertion? text := by
    intro text
    obtain ⟨gap, hgap, htext⟩ := exists_gap_append_trimStart text
    rw [← assertion?_gap_append hgap, htext]
  rw [← htrim, ← htrim other, assertion?_respaced (respaced_of_words_eq h)]

theorem contains_lower_of_words_eq {text other : List Char} (h : words text = words other)
    {sought : List Char} (hne : sought ≠ []) (hsolid : IsSolid sought) :
    contains sought (lower text) = contains sought (lower other) := by
  rw [contains_eq_any_words hne hsolid, contains_eq_any_words hne hsolid (lower other),
    words_lower, words_lower, h]

/-! ## Statements -/

theorem fieldOf?_of_words_eq {text other : List Char} (h : words text = words other)
    (tokens : List Token) : fieldOf? text tokens = fieldOf? other tokens := by
  have hkind : ∀ kind, assertedKind text kind = assertedKind other kind := by
    intro kind
    have hemail := contains_lower_of_words_eq h (by decide : "is::email".toList ≠ []) (by decide)
    have hurl := contains_lower_of_words_eq h (by decide : "is::url".toList ≠ []) (by decide)
    unfold assertedKind
    simp only [hemail, hurl]
  unfold fieldOf? fieldOfClauses
  simp only [assertion?_of_words_eq h, hkind]

theorem Definition.ofStatement?_of_words_eq (app : String) {text other : List Char}
    (h : words text = words other) :
    Definition.ofStatement? app text = Definition.ofStatement? app other := by
  unfold Definition.ofStatement?
  simp only [h, fieldOf?_of_words_eq h]

theorem Definition.ofStatement?_of_words_eq_nil (app : String) {text : List Char}
    (h : words text = []) : Definition.ofStatement? app text = none := by
  unfold Definition.ofStatement?
  rw [h]

/-! ## Splitting -/

theorem exists_piecesFrom_eq_cons (state : ScanState) (text : List Char) :
    ∃ piece pieces, piecesFrom state text = piece :: pieces := by
  cases text with
  | nil => exact ⟨_, _, rfl⟩
  | cons c rest =>
      unfold piecesFrom
      split
      · exact ⟨_, _, rfl⟩
      · split <;> exact ⟨_, _, rfl⟩

theorem piecesFrom_ending {state : ScanState} {c : Char} (h : state.endsStatement c = true)
    (rest : List Char) : piecesFrom state (c :: rest) = [] :: piecesFrom {} rest := by
  rw [piecesFrom, if_pos h]

theorem piecesFrom_inside {state : ScanState} {c : Char} (h : state.endsStatement c = false)
    (rest : List Char) :
    piecesFrom state (c :: rest) = (piecesFrom (state.after c) rest).modifyHead (c :: ·) := by
  obtain ⟨piece, pieces, hpieces⟩ := exists_piecesFrom_eq_cons (state.after c) rest
  rw [piecesFrom, hpieces, h]
  rfl

/-- Where a scan stands behind a gap: no backslash escapes what comes next. -/
def ScanState.settled (state : ScanState) : ScanState :=
  { state with escaped := false }

theorem ScanState.after_blank (state : ScanState) {c : Char} (h : isBlank c = true) :
    state.after c = state.settled := by
  have hquote : isQuote c = false := by
    cases hc : isQuote c with
    | false => rfl
    | true =>
        simp only [isQuote, Bool.or_eq_true, beq_iff_eq] at hc
        rcases hc with (rfl | rfl) | rfl <;> exact absurd h (by decide)
  have hslash : (c == '\\') = false := by
    refine beq_false_of_ne fun heq => ?_
    rw [heq] at h
    exact absurd h (by decide)
  simp [ScanState.after, ScanState.quoteAfter, ScanState.settled, hquote, hslash]

theorem ScanState.endsStatement_blank (state : ScanState) {c : Char} (h : isBlank c = true) :
    state.endsStatement c = false := by
  have hne : (c == ';') = false := by
    refine beq_false_of_ne fun heq => ?_
    rw [heq] at h
    exact absurd h (by decide)
  simp [ScanState.endsStatement, hne]

theorem piecesFrom_gap_append {gap : List Char} (hne : gap ≠ []) (h : IsGap gap)
    (state : ScanState) (text : List Char) :
    piecesFrom state (gap ++ text) = (piecesFrom state.settled text).modifyHead (gap ++ ·) := by
  induction gap generalizing state with
  | nil => exact absurd rfl hne
  | cons c gap ih =>
      obtain ⟨hc, hgap⟩ := isGap_cons_iff.1 h
      rw [List.cons_append, piecesFrom_inside (state.endsStatement_blank hc), state.after_blank hc]
      by_cases hlast : gap = []
      · rw [hlast]
        rfl
      · rw [ih hlast hgap, List.modifyHead_modifyHead]
        rfl

theorem piecesFrom_gap {gap : List Char} (h : IsGap gap) (state : ScanState) :
    piecesFrom state gap = [gap] := by
  by_cases hne : gap = []
  · rw [hne]
    rfl
  · have hpieces := piecesFrom_gap_append hne h state []
    rw [List.append_nil] at hpieces
    rw [hpieces, piecesFrom, List.modifyHead_cons, List.append_nil]

theorem piecesFrom_respaced {text other : List Char} (h : Respaced text other) (state : ScanState) :
    List.Forall₂ Respaced (piecesFrom state text) (piecesFrom state other) := by
  have hmodify : ∀ {pieces others : List (List Char)} {f g : List Char → List Char},
      List.Forall₂ Respaced pieces others → (∀ piece other, Respaced piece other →
        Respaced (f piece) (g other)) → List.Forall₂ Respaced (pieces.modifyHead f) (others.modifyHead g) := by
    intro pieces others f g hall hfg
    cases hall with
    | nil => exact .nil
    | cons hhead htail => exact .cons (hfg _ _ hhead) htail
  -- both scans meet the same letters, and a gap of any length leaves them in the same state
  induction h generalizing state with
  | ends hgap hother =>
      rw [piecesFrom_gap hgap, piecesFrom_gap hother]
      exact .cons (.ends hgap hother) .nil
  | @letter c _ _ hc _ ih =>
      by_cases hends : state.endsStatement c = true
      · rw [piecesFrom_ending hends, piecesFrom_ending hends]
        exact .cons (.ends isGap_nil isGap_nil) (ih {})
      · have hinside := Bool.eq_false_iff.2 hends
        rw [piecesFrom_inside hinside, piecesFrom_inside hinside]
        exact hmodify (ih _) fun _ _ h => .letter hc h
  | gap hne hgap hbetween hgap' _ ih =>
      rw [piecesFrom_gap_append hne hgap, piecesFrom_gap_append hbetween hgap']
      exact hmodify (ih _) fun _ _ h => .gap hne hgap hbetween hgap' h

def ScanState.scan (state : ScanState) (text : List Char) : ScanState :=
  text.foldl (fun state c => if state.endsStatement c then {} else state.after c) state

theorem ScanState.scan_cons_inside {state : ScanState} {c : Char}
    (h : state.endsStatement c = false) (text : List Char) :
    state.scan (c :: text) = (state.after c).scan text := by
  simp [ScanState.scan, h]

/-- A semicolon between no quotes parts the pieces before from those behind it. -/
theorem piecesFrom_append_ending {state : ScanState} {front : List Char}
    (h : (state.scan front).openQuote = none) (back : List Char) :
    piecesFrom state (front ++ ';' :: back) = piecesFrom state front ++ piecesFrom {} back := by
  induction front generalizing state with
  | nil =>
      have hopen : state.openQuote = none := h
      exact piecesFrom_ending (by simp [ScanState.endsStatement, hopen]) back
  | cons c front ih =>
      rw [List.cons_append]
      by_cases hends : state.endsStatement c = true
      · have hscan : (ScanState.scan {} front).openQuote = none := by
          simpa [ScanState.scan, hends] using h
        rw [piecesFrom_ending hends, piecesFrom_ending hends, ih hscan, List.cons_append]
      · have hinside := Bool.eq_false_iff.2 hends
        rw [ScanState.scan_cons_inside hinside] at h
        obtain ⟨piece, pieces, hpieces⟩ := exists_piecesFrom_eq_cons (state.after c) front
        rw [piecesFrom_inside hinside, piecesFrom_inside hinside, ih h, hpieces]
        rfl

/-- The characters on which a scan takes note: semicolons, backslashes and quotes. -/
def isMark (c : Char) : Bool :=
  c == ';' || c == '\\' || isQuote c

/-- A text that a scan from between statements passes as a whole. -/
def PassedWhole (text : List Char) : Prop :=
  ∀ back, piecesFrom {} (text ++ back) = (piecesFrom {} back).modifyHead (text ++ ·)

theorem passedWhole_nil : PassedWhole [] := by
  intro back
  obtain ⟨piece, pieces, hpieces⟩ := exists_piecesFrom_eq_cons {} back
  rw [List.nil_append, hpieces]
  rfl

theorem PassedWhole.append {front text : List Char} (hfront : PassedWhole front)
    (htext : PassedWhole text) : PassedWhole (front ++ text) := by
  intro back
  obtain ⟨piece, pieces, hpieces⟩ := exists_piecesFrom_eq_cons {} back
  rw [List.append_assoc, hfront, htext, hpieces]
  simp

theorem passedWhole_of_unmarked {text : List Char} (h : ∀ c ∈ text, isMark c = false) :
    PassedWhole text := by
  induction text with
  | nil => exact passedWhole_nil
  | cons c text ih =>
      obtain ⟨hc, htext⟩ := List.forall_mem_cons.1 h
      simp only [isMark, Bool.or_eq_false_iff] at hc
      obtain ⟨⟨hends, hslash⟩, hquote⟩ := hc
      have hafter : ScanState.after {} c = {} := by
        simp [ScanState.after, ScanState.quoteAfter, hslash, hquote]
      have hpassed : PassedWhole [c] := by
        intro back
        have hinside : ScanState.endsStatement {} c = false := by simp [ScanState.endsStatement, hends]
        have hcut := piecesFrom_inside hinside back
        rw [hafter] at hcut
        exact hcut
      exact hpassed.append (ih htext)

def definitionsIn (app : String) (text : List Char) : List Definition :=
  (statements text).filterMap (Definition.ofStatement? app)

theorem Source.definitions_eq (source : Source) :
    source.definitions = definitionsIn source.app (withoutComments source.text.toList) := rfl

theorem definitionsIn_eq (app : String) (text : List Char) :
    definitionsIn app text = (piecesFrom {} text).filterMap (Definition.ofStatement? app) := by
  rw [definitionsIn, statements, List.filterMap_filter, List.filterMap_map]
  refine List.filterMap_congr fun piece _ => ?_
  have hsame := Definition.ofStatement?_of_words_eq app (words_trim piece)
  rw [Function.comp_apply]
  by_cases hempty : (trim piece).isEmpty = true
  · have hnone : words piece = [] := by
      rw [← words_trim, List.isEmpty_iff.1 hempty, words_nil]
    rw [Definition.ofStatement?_of_words_eq_nil app hnone, hempty]
    rfl
  · rw [Bool.eq_false_iff.2 hempty]
    exact hsame

theorem definitionsIn_append_ending (app : String) {front : List Char}
    (h : (ScanState.scan {} front).openQuote = none) (back : List Char) :
    definitionsIn app (front ++ ';' :: back) = definitionsIn app front ++ definitionsIn app back := by
  rw [definitionsIn_eq, definitionsIn_eq, definitionsIn_eq, piecesFrom_append_ending h,
    List.filterMap_append]

theorem definitionsIn_trimStart (app : String) (text : List Char) :
    definitionsIn app (trimStart text) = definitionsIn app text := by
  obtain ⟨gap, hgap, htext⟩ := exists_gap_append_trimStart text
  by_cases hne : gap = []
  · rw [hne, List.nil_append] at htext
    rw [htext]
  · obtain ⟨piece, pieces, hpieces⟩ := exists_piecesFrom_eq_cons {} (trimStart text)
    have hcut := piecesFrom_gap_append hne hgap {} (trimStart text)
    rw [htext] at hcut
    have hsame := Definition.ofStatement?_of_words_eq app (words_gap_append hgap piece)
    have hcut' : piecesFrom {} text = (gap ++ piece) :: pieces := by
      rw [hcut]
      exact congrArg (List.modifyHead _) hpieces
    rw [definitionsIn_eq, definitionsIn_eq, hcut', hpieces, List.filterMap_cons,
      List.filterMap_cons, hsame]

theorem definitionsIn_of_words_eq (app : String) {text other : List Char}
    (h : words text = words other) : definitionsIn app text = definitionsIn app other := by
  rw [← definitionsIn_trimStart, ← definitionsIn_trimStart app other, definitionsIn_eq,
    definitionsIn_eq]
  have hpieces := piecesFrom_respaced (respaced_of_words_eq h) {}
  generalize piecesFrom {} (trimStart text) = pieces at hpieces
  generalize piecesFrom {} (trimStart other) = others at hpieces
  induction hpieces with
  | nil => rfl
  | cons hpiece _ ih =>
      rw [List.filterMap_cons, List.filterMap_cons, ih,
        Definition.ofStatement?_of_words_eq app hpiece.words_eq]

/-! ## Lines -/

theorem isCommentLine_of_words_eq {line other : List Char} (h : words line = words other) :
    isCommentLine line = isCommentLine other := by
  have hstart := respaced_of_words_eq h
  have hhyphens := hstart.isPrefixOf_eq (by decide : IsSolid "--".toList)
  have hslashes := hstart.isPrefixOf_eq (by decide : IsSolid "//".toList)
  unfold isCommentLine
  simp only [hhyphens, hslashes]

theorem words_dropReturn (line : List Char) : words (dropReturn line) = words line := by
  unfold dropReturn beforeClosing?
  cases hreverse : line.reverse with
  | nil => rfl
  | cons c front =>
      dsimp only
      by_cases hc : c = '\r'
      · have hline : line = front.reverse ++ c :: [] := by
          rw [← List.reverse_cons, ← hreverse, List.reverse_reverse]
        have hblank : isBlank c = true := by
          rw [hc]
          decide
        rw [if_pos hc, Option.getD_some, hline, words_append_blank hblank, words_nil, List.append_nil]
      · rw [if_neg hc, Option.getD_none]

theorem words_joined_lines (lines : List (List Char)) :
    words (joined ['\n'] lines) = lines.flatMap words := by
  induction lines with
  | nil => exact words_nil
  | cons line others ih =>
      cases others with
      | nil => simp [joined]
      | cons second others =>
          rw [joined_cons_cons, words_append_blank (by decide), ih, ← List.flatMap_cons]

theorem words_eq_flatMap_splitOn (text : List Char) :
    words text = (text.splitOn '\n').flatMap words := by
  rw [← words_joined_lines, joined, List.intercalate_splitOn]

theorem words_withoutComments (text : List Char) :
    words (withoutComments text) =
      ((text.splitOn '\n').filter fun line => !isCommentLine line).flatMap words := by
  rw [withoutComments, words_joined_lines, lines]
  generalize text.splitOn '\n' = pieces
  fun_induction linesOfPieces pieces with
  | case1 => rfl
  | case2 last hempty =>
      rw [List.isEmpty_iff.1 hempty]
      have hline : isCommentLine [] = false := by decide
      simp [hline, words_nil]
  | case3 => rfl
  | case4 piece rest _ ih =>
      rw [List.filter_cons, List.filter_cons, isCommentLine_of_words_eq (words_dropReturn piece)]
      split
      · rw [List.flatMap_cons, List.flatMap_cons, ih, words_dropReturn]
      · exact ih

theorem words_withoutComments_of_forall {text : List Char}
    (h : ∀ line ∈ text.splitOn '\n', isCommentLine line = false) :
    words (withoutComments text) = words text := by
  rw [words_withoutComments, words_eq_flatMap_splitOn text]
  congr 1
  exact List.filter_eq_self.2 fun line hline => by simp [h line hline]

/-- Schema files whose words outside comments are the same define the same. -/
theorem Source.definitions_of_words_eq {source other : Source} (happ : source.app = other.app)
    (h : words (withoutComments source.text.toList) = words (withoutComments other.text.toList)) :
    source.definitions = other.definitions := by
  rw [source.definitions_eq, other.definitions_eq, happ, definitionsIn_of_words_eq _ h]

end Schema

end SampleData
