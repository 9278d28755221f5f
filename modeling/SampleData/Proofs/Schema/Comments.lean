import SampleData.Proofs.Schema.Spacing

/-!
# Comments in schema files

A comment on a line of its own changes nothing, wherever the line stands.  A comment behind the
end of a statement is no comment to the reader: its words open the statement that follows it,
which is lost.
-/

namespace SampleData

namespace Schema

open Text

/-! ## Lines of their own -/

/-- A line that holds no part of a statement: blanks alone or a comment. -/
def IsIdleLine (line : List Char) : Prop :=
  IsGap line ∨ isCommentLine line = true

instance : DecidablePred IsIdleLine := fun _ => inferInstanceAs (Decidable (_ ∨ _))

def Source.ofLines (app : String) (lines : List (List Char)) : Source :=
  { app, text := String.ofList (joined ['\n'] lines) }

theorem trimStart_ne_nil_of_isCommentLine {line : List Char} (h : isCommentLine line = true) :
    trimStart line ≠ [] := by
  intro hnil
  simp only [isCommentLine, hnil] at h
  exact absurd h (by decide)

theorem isCommentLine_append {line : List Char} (h : isCommentLine line = true)
    (more : List Char) : isCommentLine (line ++ more) = true := by
  have hstart : trimStart (line ++ more) = trimStart line ++ more := by
    have hne : (line.dropWhile isBlank).isEmpty = false :=
      List.isEmpty_eq_false_iff.2 (trimStart_ne_nil_of_isCommentLine h)
    rw [trimStart, List.dropWhile_append, hne]
    rfl
  simp only [isCommentLine, Bool.or_eq_true, List.isPrefixOf_iff_prefix] at h ⊢
  rw [hstart]
  rcases h with hhyphens | hslashes
  · exact Or.inl (hhyphens.trans (List.prefix_append _ _))
  · exact Or.inr (hslashes.trans (List.prefix_append _ _))

/-- A comment behind an idle line makes the line a comment. -/
theorem IsIdleLine.append_comment {line comment : List Char} (hline : IsIdleLine line)
    (hcomment : isCommentLine comment = true) : isCommentLine (line ++ comment) = true := by
  rcases hline with hgap | hline
  · rw [isCommentLine_of_words_eq (words_gap_append hgap comment), hcomment]
  · exact isCommentLine_append hline comment

theorem words_withoutComments_lines {lines : List (List Char)} (hne : lines ≠ [])
    (hlines : ∀ line ∈ lines, '\n' ∉ line) :
    words (withoutComments (joined ['\n'] lines)) =
      (lines.filter fun line => !isCommentLine line).flatMap words := by
  rw [words_withoutComments, joined, List.splitOn_intercalate _ hlines hne]

theorem Source.definitions_idle_line (app : String) {front back : List (List Char)}
    {line other : List Char} (hline : IsIdleLine line) (hother : IsIdleLine other)
    (hbreaks : ∀ text ∈ line :: other :: (front ++ back), '\n' ∉ text) :
    (Source.ofLines app (front ++ line :: back)).definitions =
      (Source.ofLines app (front ++ other :: back)).definitions := by
  have hidle : ∀ {text : List Char}, IsIdleLine text →
      (([text].filter fun line => !isCommentLine line).flatMap words) = [] := by
    intro text htext
    rcases htext with hgap | hcomment
    · by_cases hcomment : isCommentLine text = true
      · simp [hcomment]
      · simp [hcomment, words_of_isGap hgap]
    · simp [hcomment]
  have hwords : ∀ {text : List Char}, IsIdleLine text →
      (∀ line ∈ front ++ text :: back, '\n' ∉ line) →
      words (withoutComments (joined ['\n'] (front ++ text :: back))) =
        ((front ++ back).filter fun line => !isCommentLine line).flatMap words := by
    intro text htext hlines
    rw [words_withoutComments_lines (by simp) hlines, ← List.singleton_append, List.filter_append,
      List.filter_append, List.flatMap_append, List.flatMap_append, hidle htext, List.nil_append,
      List.filter_append, List.flatMap_append]
  refine Source.definitions_of_words_eq rfl ?_
  simp only [Source.ofLines, String.toList_ofList]
  rw [hwords hline, hwords hother]
  · simp only [List.forall_mem_append, List.forall_mem_cons] at hbreaks ⊢
    exact ⟨hbreaks.2.2.1, hbreaks.2.1, hbreaks.2.2.2⟩
  · simp only [List.forall_mem_append, List.forall_mem_cons] at hbreaks ⊢
    exact ⟨hbreaks.2.2.1, hbreaks.1, hbreaks.2.2.2⟩

/--
A comment that is put behind a blank line or behind another comment, in any file and between
whatever lines, leaves the models as they are.
-/
theorem models_idle_line_comment {before after : List Source} {app : String}
    {front back : List (List Char)} {line comment : List Char} (hline : IsIdleLine line)
    (hcomment : isCommentLine comment = true)
    (hbreaks : ∀ text ∈ line :: comment :: (front ++ back), '\n' ∉ text) :
    models (before ++ Source.ofLines app (front ++ (line ++ comment) :: back) :: after) =
      models (before ++ Source.ofLines app (front ++ line :: back) :: after) := by
  have happended : '\n' ∉ line ++ comment := by
    intro hmem
    rcases List.mem_append.1 hmem with hmem | hmem
    · exact hbreaks line (by simp) hmem
    · exact hbreaks comment (by simp) hmem
  have hlines : ∀ text ∈ (line ++ comment) :: line :: (front ++ back), '\n' ∉ text := by
    simp only [List.forall_mem_cons] at hbreaks ⊢
    exact ⟨happended, hbreaks.1, hbreaks.2.2⟩
  have hsame := Source.definitions_idle_line app (Or.inr (hline.append_comment hcomment)) hline hlines
  simp only [models, List.flatMap_append, List.flatMap_cons, hsame]

theorem models_idle_line_comment_two_tables :
    IsIdleLine "\t".toList ∧ isCommentLine " // the second".toList = true ∧
      models ([] ++ Source.ofLines "shop" (["DEFINE TABLE first;".toList] ++
          ("\t".toList ++ " // the second".toList) :: ["DEFINE TABLE second;".toList]) :: []) =
        models ([] ++ Source.ofLines "shop" (["DEFINE TABLE first;".toList] ++
          "\t".toList :: ["DEFINE TABLE second;".toList]) :: []) :=
  ⟨by decide, by decide, models_idle_line_comment (by decide) (by decide) (by decide)⟩

/-! ## Behind statements -/

theorem ofStatement?_of_isCommentLine (app : String) {comment : List Char}
    (h : isCommentLine comment = true) : Definition.ofStatement? app comment = none := by
  rcases exists_first_word comment with hgap | ⟨gap, word, rest, rfl, hgap, hword, hsolid, hrest⟩
  · exact Definition.ofStatement?_of_words_eq_nil app (words_of_isGap hgap)
  · have hcomment : isCommentLine (word ++ rest) = true := by
      rw [← isCommentLine_of_words_eq (words_gap_append hgap (word ++ rest)), h]
    cases word with
    | nil => exact absurd rfl hword
    | cons c word =>
        have hstart := trimStart_word_append hword hsolid rest
        have hmark : c = '-' ∨ c = '/' := by
          simp only [isCommentLine, hstart, Bool.or_eq_true, List.isPrefixOf_iff_prefix] at hcomment
          rcases hcomment with ⟨back, hback⟩ | ⟨back, hback⟩
          · exact Or.inl (List.cons.inj hback).1.symm
          · exact Or.inr (List.cons.inj hback).1.symm
        have hdefine : isKeyword "DEFINE" (c :: word) = false := by
          rcases hmark with rfl | rfl <;> simp [isKeyword, sameLetters, lower, lowerChar, isUpperLetter]
        unfold Definition.ofStatement?
        rw [words_of_first_word hgap hword hsolid hrest]
        split
        · rename_i heq
          rw [← (List.cons.inj heq).1, hdefine]
          rfl
        · rfl

/--
A comment between the end of a statement and the next line takes the statement that follows
with it: what is defined is what stands before, and behind the next semicolon.
-/
theorem definitionsIn_trailing_comment (app : String) {front comment : List Char}
    (hfront : (ScanState.scan {} front).openQuote = none) (hcomment : isCommentLine comment = true)
    (hunmarked : ∀ c ∈ comment, isMark c = false) (back : List Char) :
    definitionsIn app (front ++ ';' :: (comment ++ '\n' :: back)) =
      definitionsIn app front ++
        (piecesFrom {} back).tail.filterMap (Definition.ofStatement? app) := by
  have hbreak : PassedWhole ['\n'] := passedWhole_of_unmarked (by decide)
  have hpassed := (passedWhole_of_unmarked hunmarked).append hbreak back
  obtain ⟨piece, pieces, hpieces⟩ := exists_piecesFrom_eq_cons {} back
  have hlost := ofStatement?_of_isCommentLine app (isCommentLine_append hcomment (['\n'] ++ piece))
  rw [definitionsIn_append_ending app hfront, definitionsIn_eq app (comment ++ _),
    ← List.singleton_append, ← List.append_assoc, hpassed, hpieces, List.modifyHead_cons,
    List.filterMap_cons, List.append_assoc, hlost, List.tail_cons]

/-- With the line feed alone in the place of the comment nothing is lost. -/
theorem definitionsIn_line_feed (app : String) {front : List Char}
    (hfront : (ScanState.scan {} front).openQuote = none) (back : List Char) :
    definitionsIn app (front ++ ';' :: '\n' :: back) = definitionsIn app front ++ definitionsIn app back := by
  have hwords : words ('\n' :: back) = words back := words_cons_blank (by decide) back
  rw [definitionsIn_append_ending app hfront, definitionsIn_of_words_eq app hwords]

theorem models_trailing_comment_two_tables :
    models [⟨"shop", "DEFINE TABLE first;\nDEFINE TABLE second;"⟩] =
        [Model.ofName "shop" "first", Model.ofName "shop" "second"] ∧
      models [⟨"shop", "DEFINE TABLE first; -- goods\nDEFINE TABLE second;"⟩] =
        [Model.ofName "shop" "first"] := by
  decide +kernel

end Schema

end SampleData
