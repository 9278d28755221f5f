import SampleData.Proofs.Schema.Reading

/-!
# Cutting written schemas

The text of a written schema is cut into the statements that were written: no token of a
declared schema ends a statement or starts a comment.
-/

namespace SampleData

namespace Schema

open Text

/-! ## Tame tokens -/

/-- A token that no scan takes for the end of a statement, and no reader for a comment. -/
def IsTame (token : Token) : Prop :=
  PassedWhole token ∧ contains "--".toList token = false ∧ contains "//".toList token = false

theorem isTame_of_unmarked {token : Token} (hmark : ∀ c ∈ token, isMark c = false)
    (hhyphens : contains "--".toList token = false) (hslash : '/' ∉ token) : IsTame token :=
  ⟨passedWhole_of_unmarked hmark, hhyphens, contains_eq_false (by decide : '/' ∈ "//".toList) hslash⟩

theorem isMark_cases {c : Char} (h : isMark c = true) :
    c = ';' ∨ c = '\\' ∨ c = '\'' ∨ c = '"' ∨ c = Char.ofNat 0x60 := by
  simp only [isMark, isQuote, Bool.or_eq_true, beq_iff_eq] at h
  tauto

theorem IsOrdinaryToken.isTame {token : Token} (h : IsOrdinaryToken token) : IsTame token := by
  refine isTame_of_unmarked (fun c hc => ?_) ?_ (h.not_mem (by decide))
  · refine Bool.eq_false_iff.2 fun hmark => ?_
    have hordinary := h c hc
    rcases isMark_cases hmark with rfl | rfl | rfl | rfl | rfl <;> exact absurd hordinary (by decide)
  · exact contains_eq_false (by decide : '-' ∈ "--".toList) (h.not_mem (by decide))

theorem contains_hyphens_of_isNumber {number : List Char} (h : isNumber number = true) :
    contains "--".toList number = false := by
  unfold isNumber at h
  split at h
  · cases h
  · simp only [Bool.and_eq_true, Bool.not_eq_true'] at h
    exact h.2

theorem isTame_of_isNumber {number : List Char} (h : isNumber number = true) : IsTame number := by
  refine isTame_of_unmarked (fun c hc => ?_) (contains_hyphens_of_isNumber h)
    (not_mem_of_isNumber h (by decide))
  refine Bool.eq_false_iff.2 fun hmark => ?_
  have hrest := isNumberRest_of_mem h c hc
  rcases isMark_cases hmark with rfl | rfl | rfl | rfl | rfl <;> exact absurd hrest (by decide)

/-- A scan passes what stands between two double quotes, if no quote or backslash is in it. -/
theorem passedWhole_quoted {text : List Char} (hquote : '"' ∉ text) (hslash : '\\' ∉ text) :
    PassedWhole ('"' :: (text ++ ['"'])) := by
  -- between the quotes the scan stays in one state, as nothing there closes or escapes
  have hinside : ∀ back, piecesFrom { openQuote := some '"' } (text ++ '"' :: back) =
      (piecesFrom {} back).modifyHead (text ++ '"' :: ·) := by
    intro back
    induction text with
    | nil => exact piecesFrom_inside rfl back
    | cons c text ih =>
        obtain ⟨hne, htext⟩ := not_or.1 (mt List.mem_cons.2 hquote)
        obtain ⟨hne', htext'⟩ := not_or.1 (mt List.mem_cons.2 hslash)
        obtain ⟨piece, pieces, hpieces⟩ := exists_piecesFrom_eq_cons {} back
        have hstate : ScanState.after { openQuote := some '"' } c = { openQuote := some '"' } := by
          have hescape : (c == '\\') = false := beq_false_of_ne (Ne.symm hne')
          simp [ScanState.after, ScanState.quoteAfter, hne, hescape]
        have hends : ScanState.endsStatement { openQuote := some '"' } c = false := by
          simp [ScanState.endsStatement]
        rw [List.cons_append, piecesFrom_inside hends, hstate, ih htext htext', hpieces]
        rfl
  intro back
  obtain ⟨piece, pieces, hpieces⟩ := exists_piecesFrom_eq_cons {} back
  have hopen := piecesFrom_inside (rfl : ScanState.endsStatement {} '"' = false) (text ++ '"' :: back)
  have hstate : ScanState.after {} '"' = { openQuote := some '"' } := rfl
  rw [hstate, hinside, hpieces] at hopen
  rw [hpieces]
  simpa using hopen

theorem isTame_annotationOf (source : TextSource) : IsTame (annotationOf source) := by
  have hquoted : PassedWhole (annotationOf source) := by
    cases source <;> exact passedWhole_quoted (by decide) (by decide)
  exact ⟨hquoted, by cases source <;> decide, by cases source <;> decide⟩

theorem passedWhole_of_words {piece : List Char} (h : ∀ word ∈ words piece, PassedWhole word) :
    PassedWhole piece := by
  have hblank : ∀ {gap : List Char}, IsGap gap → PassedWhole gap := by
    intro gap hgap
    refine passedWhole_of_unmarked fun c hc => Bool.eq_false_iff.2 fun hmark => ?_
    have hc := hgap c hc
    rcases isMark_cases hmark with rfl | rfl | rfl | rfl | rfl <;> exact absurd hc (by decide)
  generalize hwords : words piece = list at h
  induction list generalizing piece with
  | nil => exact hblank (isGap_of_words_eq_nil hwords)
  | cons word others ih =>
      obtain ⟨gap, rest, rfl, hgap, -, -, -, hothers⟩ := exists_of_words_eq_cons hwords
      obtain ⟨hword, hrest⟩ := List.forall_mem_cons.1 h
      exact (hblank hgap).append (hword.append (ih hothers hrest))

theorem piecesFrom_closed {pieces : List (List Char)} (h : ∀ piece ∈ pieces, PassedWhole piece)
    {ending : List Char} (hending : IsGap ending) :
    piecesFrom {} (pieces.flatMap (· ++ [';']) ++ ending) = pieces ++ [ending] := by
  induction pieces with
  | nil => exact piecesFrom_gap hending {}
  | cons piece pieces ih =>
      obtain ⟨hpiece, hpieces⟩ := List.forall_mem_cons.1 h
      have htext : (piece :: pieces).flatMap (· ++ [';']) ++ ending =
          piece ++ ';' :: (pieces.flatMap (· ++ [';']) ++ ending) := by
        simp
      rw [htext, hpiece, piecesFrom_ending rfl, ih hpieces]
      simp

theorem contains_closed {sought : List Char} (hne : sought ≠ []) (hmark : ';' ∉ sought)
    (pieces : List (List Char)) (ending : List Char) :
    contains sought (pieces.flatMap (· ++ [';']) ++ ending) =
      (pieces.any (contains sought) || contains sought ending) := by
  induction pieces with
  | nil => rfl
  | cons piece pieces ih =>
      have htext : (piece :: pieces).flatMap (· ++ [';']) ++ ending =
          piece ++ ';' :: (pieces.flatMap (· ++ [';']) ++ ending) := by
        simp
      rw [htext, contains_append_cons hne hmark, ih, List.any_cons, Bool.or_assoc]

theorem contains_of_isCommentLine {line : List Char} (h : isCommentLine line = true) :
    contains "--".toList line = true ∨ contains "//".toList line = true := by
  have hstarts : ∀ {sought : List Char}, sought ≠ [] → IsSolid sought →
      sought.isPrefixOf (trimStart line) = true → contains sought line = true := by
    intro sought hne hsolid hstart
    obtain ⟨gap, hgap, hline⟩ := exists_gap_append_trimStart line
    rw [← hline, contains_gap_append hne hsolid hgap]
    cases hrest : trimStart line with
    | nil =>
        rw [hrest] at hstart
        exact absurd (List.prefix_nil.1 (List.isPrefixOf_iff_prefix.1 hstart)) hne
    | cons c rest =>
        rw [hrest] at hstart
        rw [contains, hstart, Bool.true_or]
  unfold isCommentLine at h
  rcases Bool.or_eq_true_iff.1 h with hhyphens | hslashes
  · exact Or.inl (hstarts (by decide) (by decide) hhyphens)
  · exact Or.inr (hstarts (by decide) (by decide) hslashes)

theorem isCommentLine_eq_false {text : List Char} (hhyphens : contains "--".toList text = false)
    (hslashes : contains "//".toList text = false) :
    ∀ line ∈ text.splitOn '\n', isCommentLine line = false := by
  have htext : joined ['\n'] (text.splitOn '\n') = text := List.intercalate_splitOn _
  rw [← htext, contains_joined (by decide) (by decide)] at hhyphens hslashes
  intro line hline
  refine Bool.eq_false_iff.2 fun hcomment => ?_
  rcases contains_of_isCommentLine hcomment with hfound | hfound
  · exact List.any_eq_false.1 hhyphens line hline hfound
  · exact List.any_eq_false.1 hslashes line hline hfound

/--
What a text of statements defines is what its statements define, one by one; and each is a list
of words, so that it can be put together again.
-/
theorem definitionsIn_of_spells (app : String) {text : List Char} {statements : List (List Token)}
    (h : Spells text statements) (htame : ∀ statement ∈ statements, ∀ token ∈ statement, IsTame token) :
    (∀ statement ∈ statements, words (spaced statement) = statement) ∧
      definitionsIn app (withoutComments text) =
        statements.filterMap fun statement => Definition.ofStatement? app (spaced statement) := by
  obtain ⟨pieces, ending, rfl, rfl, hending⟩ := h
  have hpieces : ∀ piece ∈ pieces, ∀ token ∈ words piece, IsTame token := fun piece hpiece =>
    htame (words piece) (List.mem_map_of_mem hpiece)
  have hspaced : ∀ piece, words (spaced (words piece)) = words piece := fun _ =>
    words_spaced_of_words_eq rfl
  -- a mark of comments has neither blanks nor semicolons, so it would lie in a single token
  have hnone : ∀ {sought : List Char}, sought ≠ [] → IsSolid sought → ';' ∉ sought →
      (∀ token, IsTame token → contains sought token = false) →
        contains sought (pieces.flatMap (· ++ [';']) ++ ending) = false := by
    intro sought hne hsolid hmark htoken
    have hend := contains_gap_append hne hsolid hending []
    rw [List.append_nil, contains_nil hne] at hend
    rw [contains_closed hne hmark, hend, Bool.or_false]
    refine List.any_eq_false.2 fun piece hpiece => ?_
    rw [contains_eq_any_words hne hsolid, Bool.not_eq_true]
    exact List.any_eq_false.2 fun token hmem => by simp [htoken token (hpieces piece hpiece token hmem)]
  have hlines := isCommentLine_eq_false
    (hnone (by decide) (by decide) (by decide) fun _ htoken => htoken.2.1)
    (hnone (by decide) (by decide) (by decide) fun _ htoken => htoken.2.2)
  have hwhole : ∀ piece ∈ pieces, PassedWhole piece := fun piece hpiece =>
    passedWhole_of_words fun token htoken => (hpieces piece hpiece token htoken).1
  have hlast : Definition.ofStatement? app ending = none :=
    Definition.ofStatement?_of_words_eq_nil app (words_of_isGap hending)
  refine ⟨List.forall_mem_map.2 fun piece _ => hspaced piece, ?_⟩
  rw [definitionsIn_of_words_eq app (words_withoutComments_of_forall hlines), definitionsIn_eq,
    piecesFrom_closed hwhole hending, List.filterMap_append, List.filterMap_cons, hlast,
    List.filterMap_nil, List.append_nil, List.filterMap_map]
  refine List.filterMap_congr fun piece _ => ?_
  rw [Function.comp_apply, Definition.ofStatement?_of_words_eq app (hspaced piece)]

/-! ## Tokens of declared schemas -/

theorem isTame_assertTokens {content : Content} {token : Token} (h : token ∈ content.assertTokens) :
    IsTame token := by
  have hwords : ∀ token ∈ assertWords, (∀ c ∈ token, isMark c = false) ∧
      contains "--".toList token = false ∧ '/' ∉ token := by
    decide
  rcases mem_assertTokens h with hword | ⟨n, rfl⟩
  · obtain ⟨hmark, hhyphens, hslash⟩ := hwords token hword
    exact isTame_of_unmarked hmark hhyphens hslash
  · exact IsOrdinaryToken.isTame fun c hc => (isTypeChar_of_mem_digitsOf n c hc).2

theorem FieldDeclaration.isTame_of_mem_statement {declared : FieldDeclaration} (h : declared.WellFormed)
    {table : String} (htable : IsName table) :
    ∀ token ∈ declared.statement table, IsTame token := by
  have hback : ∀ token ∈ declared.defaultTokens ++ declared.commentTokens, IsTame token := by
    intro token htoken
    rcases mem_backTokens h htoken with hordinary | hnumber | ⟨source, rfl⟩
    · exact hordinary.isTame
    · exact isTame_of_isNumber hnumber
    · exact isTame_annotationOf source
  rw [FieldDeclaration.statement_eq, List.forall_mem_append, List.forall_mem_append]
  exact ⟨fun token htoken => (isOrdinaryToken_frontTokens h htable token htoken).isTame,
    fun token htoken => isTame_assertTokens htoken, hback⟩

theorem FieldDeclaration.isTame_of_mem_indexStatement {declared : FieldDeclaration}
    (h : declared.WellFormed) {table index : String} (htable : IsName table) (hindex : IsName index) :
    ∀ token ∈ declared.indexStatement table index, IsTame token := by
  have hname : ∀ {name : String}, IsName name → IsTame name.toList := fun hname =>
    IsOrdinaryToken.isTame (isOrdinary_of_mem_name hname.1)
  have hwords : ∀ word ∈ ["DEFINE".toList, "INDEX".toList, "ON".toList, "FIELDS".toList, "UNIQUE".toList],
      IsOrdinaryToken word := by
    decide
  have hword := fun word hmem => (hwords word hmem).isTame
  unfold FieldDeclaration.indexStatement
  simp only [List.forall_mem_cons]
  exact ⟨hword _ (by decide), hword _ (by decide), hname hindex, hword _ (by decide), hname htable,
    hword _ (by decide), hname h.name, hword _ (by decide), nofun⟩

theorem TableDeclaration.isTame_of_mem_statement {declared : TableDeclaration} (h : IsName declared.name) :
    ∀ token ∈ declared.statement, IsTame token := by
  have hwords : ∀ word ∈ ["DEFINE".toList, "TABLE".toList, "SCHEMAFULL".toList], IsOrdinaryToken word := by
    decide
  have hword := fun word hmem => (hwords word hmem).isTame
  have hname : IsTame declared.name.toList := IsOrdinaryToken.isTame (isOrdinary_of_mem_name h.1)
  unfold TableDeclaration.statement
  simp only [List.forall_mem_cons]
  exact ⟨hword _ (by decide), hword _ (by decide), hname, hword _ (by decide), nofun⟩

theorem TableDeclaration.isTame_of_mem_statements {declared : TableDeclaration} (h : declared.WellFormed) :
    ∀ statement ∈ declared.statements, ∀ token ∈ statement, IsTame token := by
  unfold TableDeclaration.statements
  refine List.forall_mem_cons.2 ⟨isTame_of_mem_statement h.name, List.forall_mem_append.2 ⟨?_, ?_⟩⟩
  · exact List.forall_mem_map.2 fun field hfield =>
      FieldDeclaration.isTame_of_mem_statement (h.fields field hfield) h.name
  · intro statement hstatement
    obtain ⟨field, hfield, hsome⟩ := List.mem_filterMap.1 hstatement
    obtain ⟨index, hindex, rfl⟩ := Option.map_eq_some_iff.1 hsome
    exact FieldDeclaration.isTame_of_mem_indexStatement (h.fields field hfield) h.name
      ((h.fields field hfield).index index hindex)

end Schema

end SampleData
