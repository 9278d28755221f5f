import SampleData.Proofs.Schema.Spacing

/-!
# Splitting is exact

The statements of a text are what stands between the semicolons outside quotes, without the gaps
around it.  So statements put together with semicolons are found again one by one, and what is found
in a text can be put together and found once more.
-/

namespace SampleData

namespace Schema

open Text

/-! ## Scans -/

/-- A text in which a scan from here meets no semicolon outside quotes. -/
def ScanState.Passes (state : ScanState) (text : List Char) : Prop :=
  ∀ front back, text = front ++ ';' :: back → (state.scan front).openQuote ≠ none

/-- A text behind which a scan from between statements stands outside quotes. -/
def EndsOutside (text : List Char) : Prop :=
  (ScanState.scan {} text).openQuote = none

instance : DecidablePred EndsOutside := fun _ => inferInstanceAs (Decidable (_ = _))

namespace ScanState

theorem scan_append (state : ScanState) (front back : List Char) :
    state.scan (front ++ back) = (state.scan front).scan back :=
  List.foldl_append

/-- A gap ends an escape, and does nothing else to a scan. -/
theorem scan_gap {gap : List Char} (h : IsGap gap) (state : ScanState) :
    state.scan gap = state ∨ state.scan gap = state.settled := by
  induction gap generalizing state with
  | nil => exact Or.inl rfl
  | cons c gap ih =>
      obtain ⟨hc, hgap⟩ := isGap_cons_iff.1 h
      rw [scan_cons_inside (state.endsStatement_blank hc), state.after_blank hc]
      exact Or.inr ((ih hgap state.settled).elim id id)

theorem scan_gap_between {gap : List Char} (h : IsGap gap) : scan {} gap = {} :=
  (scan_gap h {}).elim id id

theorem openQuote_scan_gap {gap : List Char} (h : IsGap gap) (state : ScanState) :
    (state.scan gap).openQuote = state.openQuote := by
  rcases scan_gap h state with hscan | hscan <;> rw [hscan]
  rfl

theorem passes_nil (state : ScanState) : state.Passes [] := by
  intro front back h
  cases front <;> cases h

theorem passes_cons_iff {state : ScanState} {c : Char} {text : List Char} :
    state.Passes (c :: text) ↔ state.endsStatement c = false ∧ (state.after c).Passes text := by
  constructor
  · intro h
    have hinside : state.endsStatement c = false := by
      refine Bool.eq_false_iff.2 fun hends => ?_
      simp only [endsStatement, Bool.and_eq_true, beq_iff_eq, Option.isNone_iff_eq_none] at hends
      exact h [] text (by rw [hends.1, List.nil_append]) hends.2
    refine ⟨hinside, fun front back htext => ?_⟩
    rw [← scan_cons_inside hinside]
    exact h (c :: front) back (by rw [htext, List.cons_append])
  · rintro ⟨hinside, h⟩ front back htext
    cases front with
    | nil =>
        intro hopen
        have hopen : state.openQuote = none := hopen
        rw [List.nil_append, List.cons.injEq] at htext
        rw [htext.1, endsStatement, hopen] at hinside
        cases hinside
    | cons d front =>
        rw [List.cons_append, List.cons.injEq] at htext
        obtain ⟨rfl, htext⟩ := htext
        rw [scan_cons_inside hinside]
        exact h front back htext

def decidePasses (state : ScanState) : (text : List Char) → Decidable (state.Passes text)
  | [] => isTrue state.passes_nil
  | c :: text =>
      have := (state.after c).decidePasses text
      decidable_of_iff _ passes_cons_iff.symm

instance (state : ScanState) : DecidablePred state.Passes := state.decidePasses

theorem passes_append_iff {state : ScanState} {front back : List Char} :
    state.Passes (front ++ back) ↔ state.Passes front ∧ (state.scan front).Passes back := by
  induction front generalizing state with
  | nil => exact (and_iff_right state.passes_nil).symm
  | cons c front ih =>
      rw [List.cons_append, passes_cons_iff, passes_cons_iff, ih, and_assoc]
      refine and_congr_right fun hinside => ?_
      rw [scan_cons_inside hinside]

theorem passes_gap {gap : List Char} (h : IsGap gap) (state : ScanState) : state.Passes gap := by
  rintro front back rfl
  exact absurd (h ';' (List.mem_append_right front List.mem_cons_self)) (by decide)

theorem passes_between_iff {before behind : List Char} (hbefore : IsGap before) (hbehind : IsGap behind)
    {text : List Char} : Passes {} (before ++ (text ++ behind)) ↔ Passes {} text := by
  rw [passes_append_iff, passes_append_iff, scan_gap_between hbefore]
  exact ⟨fun h => h.2.1, fun h => ⟨passes_gap hbefore _, h, passes_gap hbehind _⟩⟩

/-- A scan passes a text, or it passes what stands before the first semicolon outside quotes. -/
theorem passes_or_exists_ending (state : ScanState) (text : List Char) :
    state.Passes text ∨ ∃ front back, text = front ++ ';' :: back ∧ state.Passes front ∧
      (state.scan front).openQuote = none := by
  induction text generalizing state with
  | nil => exact Or.inl state.passes_nil
  | cons c text ih =>
      by_cases hends : state.endsStatement c = true
      · simp only [endsStatement, Bool.and_eq_true, beq_iff_eq, Option.isNone_iff_eq_none] at hends
        exact Or.inr ⟨[], text, by rw [hends.1, List.nil_append], state.passes_nil, hends.2⟩
      · have hinside := Bool.eq_false_iff.2 hends
        rcases ih (state.after c) with hpasses | ⟨front, back, rfl, hpasses, hopen⟩
        · exact Or.inl (passes_cons_iff.2 ⟨hinside, hpasses⟩)
        · refine Or.inr ⟨c :: front, back, rfl, passes_cons_iff.2 ⟨hinside, hpasses⟩, ?_⟩
          rw [scan_cons_inside hinside, hopen]

end ScanState

theorem endsOutside_between_iff {before behind : List Char} (hbefore : IsGap before)
    (hbehind : IsGap behind) {text : List Char} :
    EndsOutside (before ++ (text ++ behind)) ↔ EndsOutside text := by
  unfold EndsOutside
  rw [ScanState.scan_append, ScanState.scan_append, ScanState.scan_gap_between hbefore,
    ScanState.openQuote_scan_gap hbehind]

/-! ## Statements of a text -/

/-- What a statement of a text is like: it has no blanks at its ends and no ending in it. -/
structure IsStatement (text : List Char) : Prop where
  ne_nil : text ≠ []
  trimmed : trim text = text
  passes : ScanState.Passes {} text

instance : DecidablePred IsStatement := fun text =>
  decidable_of_iff (text ≠ [] ∧ trim text = text ∧ ScanState.Passes {} text)
    ⟨fun h => ⟨h.1, h.2.1, h.2.2⟩, fun h => ⟨h.ne_nil, h.trimmed, h.passes⟩⟩

theorem isStatement_trim {text : List Char} (hne : trim text ≠ []) (h : ScanState.Passes {} text) :
    IsStatement (trim text) := by
  obtain ⟨before, behind, hbefore, hbehind, htext⟩ := exists_gaps_around_trim text
  rw [← htext, ScanState.passes_between_iff hbefore hbehind] at h
  exact ⟨hne, trim_trim text, h⟩

theorem endsOutside_trim_iff {text : List Char} : EndsOutside (trim text) ↔ EndsOutside text := by
  obtain ⟨before, behind, hbefore, hbehind, htext⟩ := exists_gaps_around_trim text
  have hends : EndsOutside (before ++ (trim text ++ behind)) ↔ EndsOutside (trim text) :=
    endsOutside_between_iff hbefore hbehind
  rw [htext] at hends
  exact hends.symm

theorem piecesFrom_of_passes {state : ScanState} {text : List Char} (h : state.Passes text) :
    piecesFrom state text = [text] := by
  induction text generalizing state with
  | nil => rfl
  | cons c text ih =>
      obtain ⟨hinside, hrest⟩ := ScanState.passes_cons_iff.1 h
      rw [piecesFrom_inside hinside, ih hrest, List.modifyHead_cons]

theorem statements_of_passes {text : List Char} (h : ScanState.Passes {} text) :
    statements text = if trim text = [] then [] else [trim text] := by
  rw [statements, piecesFrom_of_passes h, List.map_singleton, List.filter_singleton]
  by_cases hempty : trim text = []
  · rw [if_pos hempty, hempty]
    rfl
  · rw [if_neg hempty, List.isEmpty_eq_false_iff.2 hempty]
    rfl

theorem statements_gap {gap : List Char} (h : IsGap gap) : statements gap = [] := by
  have htrim : trim gap = [] := trim_between isGap_nil h []
  rw [statements_of_passes (ScanState.passes_gap h {}), if_pos htrim]

theorem IsStatement.statements_between {statement : List Char} (h : IsStatement statement)
    {before behind : List Char} (hbefore : IsGap before) (hbehind : IsGap behind) :
    statements (before ++ (statement ++ behind)) = [statement] := by
  have hpasses := (ScanState.passes_between_iff hbefore hbehind).2 h.passes
  rw [statements_of_passes hpasses, trim_between hbefore hbehind, h.trimmed, if_neg h.ne_nil]

theorem IsStatement.statements_alone {statement : List Char} (h : IsStatement statement) :
    statements statement = [statement] := by
  have halone := h.statements_between isGap_nil isGap_nil
  rwa [List.nil_append, List.append_nil] at halone

theorem statements_cases_of_passes {text : List Char} (h : ScanState.Passes {} text) :
    statements text = [] ∨ statements text = [trim text] ∧ IsStatement (trim text) := by
  rw [statements_of_passes h]
  by_cases hempty : trim text = []
  · exact Or.inl (if_pos hempty)
  · exact Or.inr ⟨if_neg hempty, isStatement_trim hempty h⟩

/-- A semicolon outside quotes parts the statements before from those behind it. -/
theorem statements_append_ending {front : List Char} (h : EndsOutside front) (back : List Char) :
    statements (front ++ ';' :: back) = statements front ++ statements back := by
  rw [statements, piecesFrom_append_ending h, List.map_append, List.filter_append]
  rfl

/--
What holds of texts without an ending, and of a text with one if it holds behind it, holds of
all texts.
-/
theorem statements_induction {motive : List Char → Prop}
    (whole : ∀ text, ScanState.Passes {} text → motive text)
    (ending : ∀ front back, ScanState.Passes {} front → EndsOutside front → motive back →
      motive (front ++ ';' :: back))
    (text : List Char) : motive text := by
  generalize hlength : text.length = length
  induction length using Nat.strongRecOn generalizing text with
  | ind length ih =>
      rcases ScanState.passes_or_exists_ending {} text with h | ⟨front, back, rfl, hpasses, hends⟩
      · exact whole text h
      · have hshorter : back.length < length := by simp [← hlength]; omega
        exact ending front back hpasses hends (ih back.length hshorter back rfl)

theorem isStatement_of_mem_statements (text : List Char) :
    ∀ statement ∈ statements text, IsStatement statement := by
  have hwhole : ∀ text, ScanState.Passes {} text → ∀ statement ∈ statements text,
      IsStatement statement := by
    intro text h
    rcases statements_cases_of_passes h with hnone | ⟨hone, hstatement⟩
    · rw [hnone]
      nofun
    · rw [hone]
      exact List.forall_mem_singleton.2 hstatement
  induction text using statements_induction with
  | whole text h => exact hwhole text h
  | ending front back hpasses hends ih =>
      rw [statements_append_ending hends]
      exact List.forall_mem_append.2 ⟨hwhole front hpasses, ih⟩

theorem statements_joined_statements (text : List Char) :
    statements (joined [';'] (statements text)) = statements text := by
  induction text using statements_induction with
  | whole text h =>
      rcases statements_cases_of_passes h with hnone | ⟨hone, hstatement⟩
      · rw [hnone]
        exact statements_gap isGap_nil
      · rw [hone, joined_singleton, hstatement.statements_alone]
  | ending front back hpasses hends ih =>
      rw [statements_append_ending hends]
      rcases statements_cases_of_passes hpasses with hnone | ⟨hone, hstatement⟩
      · rw [hnone, List.nil_append, ih]
      · rw [hone, List.singleton_append]
        cases hback : statements back with
        | nil => rw [joined_singleton, hstatement.statements_alone]
        | cons second others =>
            -- the first statement ends outside quotes, as its text does, so the semicolon parts it off
            rw [joined_cons_cons, statements_append_ending (endsOutside_trim_iff.2 hends), ← hback, ih,
              hstatement.statements_alone, List.singleton_append]

/-! ## Statements put together -/

/--
Statements as a file has them: each between gaps, with a semicolon between each two and perhaps
behind the last.
-/
inductive Separated : List (List Char) → List Char → Prop
  | none {gap : List Char} (hgap : IsGap gap) : Separated [] gap
  | last {statement before behind : List Char} (hbefore : IsGap before) (hbehind : IsGap behind) :
      Separated [statement] (before ++ (statement ++ behind))
  | next {statement before behind : List Char} {others : List (List Char)} {text : List Char}
      (hbefore : IsGap before) (hbehind : IsGap behind) (h : Separated others text) :
      Separated (statement :: others) (before ++ (statement ++ behind) ++ ';' :: text)

theorem Separated.statements_eq {list : List (List Char)} {text : List Char} (h : Separated list text)
    (hlist : ∀ statement ∈ list, IsStatement statement ∧ EndsOutside statement) :
    statements text = list := by
  induction h with
  | none hgap => exact statements_gap hgap
  | last hbefore hbehind =>
      exact (List.forall_mem_singleton.1 hlist).1.statements_between hbefore hbehind
  | next hbefore hbehind _ ih =>
      obtain ⟨⟨hstatement, hends⟩, hothers⟩ := List.forall_mem_cons.1 hlist
      rw [statements_append_ending ((endsOutside_between_iff hbefore hbehind).2 hends),
        hstatement.statements_between hbefore hbehind, ih hothers, List.singleton_append]

/--
Statements that end outside quotes are found one by one in every text that has them separated.  In
any text at all only such as could be statements are found, and they are found again when they are
put together.
-/
theorem statements_exact_and_stable :
    (∀ list text, (∀ statement ∈ list, IsStatement statement ∧ EndsOutside statement) →
      Separated list text → statements text = list) ∧
    ∀ text, (∀ statement ∈ statements text, IsStatement statement) ∧
      statements (joined [';'] (statements text)) = statements text :=
  ⟨fun _ _ hlist hseparated => hseparated.statements_eq hlist,
    fun text => ⟨isStatement_of_mem_statements text, statements_joined_statements text⟩⟩

/-- Between quotes neither a semicolon nor one behind an escaped quote ends the first statement. -/
theorem statements_exact_and_stable_quoted_semicolon :
    Separated ["DEFINE TABLE post COMMENT 'a;\\';b'".toList, "DEFINE TABLE tag".toList]
        "\nDEFINE TABLE post COMMENT 'a;\\';b' ;\n  DEFINE TABLE tag;".toList ∧
      statements "\nDEFINE TABLE post COMMENT 'a;\\';b' ;\n  DEFINE TABLE tag;".toList =
        ["DEFINE TABLE post COMMENT 'a;\\';b'".toList, "DEFINE TABLE tag".toList] := by
  have hseparated : Separated
      ["DEFINE TABLE post COMMENT 'a;\\';b'".toList, "DEFINE TABLE tag".toList]
      "\nDEFINE TABLE post COMMENT 'a;\\';b' ;\n  DEFINE TABLE tag;".toList :=
    .next (by decide : IsGap ['\n']) (by decide : IsGap [' '])
      (.next (by decide : IsGap ['\n', ' ', ' ']) isGap_nil (.none isGap_nil))
  exact ⟨hseparated, statements_exact_and_stable.1 _ _ (by decide) hseparated⟩

end Schema

end SampleData
