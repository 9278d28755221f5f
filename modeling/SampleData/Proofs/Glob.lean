import Mathlib.Data.List.Forall2
import SampleData.Glob

/-!
# What patterns match

The rows of answers hold for each ending of a text whether the pattern matches it, so the first
answer of the last row decides the match.  And a match is a cut of the text into pieces, one for
each character of the pattern.
-/

namespace SampleData

namespace Glob

/-! ## Matches by the first characters -/

theorem matches_nil_iff {text : List Char} : Matches [] text ↔ text = [] := by
  constructor
  · intro h
    cases h
    rfl
  · rintro rfl
    exact .nil

theorem matches_star_nil_iff {pattern : List Char} :
    Matches ('*' :: pattern) [] ↔ Matches pattern [] := by
  constructor
  · intro h
    cases h with
    | starNone h => exact h
  · exact .starNone

theorem matches_star_cons_iff {pattern text : List Char} {c : Char} :
    Matches ('*' :: pattern) (c :: text) ↔
      Matches pattern (c :: text) ∨ Matches ('*' :: pattern) text := by
  constructor
  · intro h
    cases h with
    | starNone h => exact .inl h
    | starMore _ h => exact .inr h
    | same _ hstar => exact absurd rfl hstar
  · rintro (h | h)
    · exact .starNone h
    · exact .starMore c h

theorem not_matches_char_nil {p : Char} (hstar : p ≠ '*') (pattern : List Char) :
    ¬ Matches (p :: pattern) [] := by
  intro h
  cases h with
  | starNone => exact hstar rfl

theorem matches_char_cons_iff {p : Char} (hstar : p ≠ '*') {pattern text : List Char} {c : Char} :
    Matches (p :: pattern) (c :: text) ↔ fits p c = true ∧ Matches pattern text := by
  constructor
  · intro h
    cases h with
    | starNone | starMore => exact absurd rfl hstar
    | any _ h => exact ⟨rfl, h⟩
    | same _ _ h => exact ⟨by simp [fits], h⟩
  · rintro ⟨hfits, h⟩
    rcases Bool.or_eq_true_iff.1 hfits with hany | hsame
    · obtain rfl := eq_of_beq hany
      exact .any c h
    · obtain rfl := eq_of_beq hsame
      exact .same p hstar h

/-! ## Rows of answers -/

/-- A row holds for a text and each of its shorter endings whether a pattern matches it. -/
inductive Answers (pattern : List Char) : List Char → List Bool → Prop
  | nil {answer : Bool} (h : answer = true ↔ Matches pattern []) : Answers pattern [] [answer]
  | cons {c : Char} {text : List Char} {answer : Bool} {shorter : List Bool}
      (h : answer = true ↔ Matches pattern (c :: text)) (hshorter : Answers pattern text shorter) :
      Answers pattern (c :: text) (answer :: shorter)

theorem Answers.headD_iff {pattern text : List Char} {answers : List Bool}
    (h : Answers pattern text answers) : answers.headD false = true ↔ Matches pattern text := by
  cases h with
  | nil h => exact h
  | cons h => exact h

theorem answers_rowOfEnd (text : List Char) : Answers [] text (rowOfEnd text) := by
  induction text with
  | nil => exact .nil (by simp [matches_nil_iff])
  | cons c text ih => exact .cons (by simp [matches_nil_iff]) ih

/--
The star's row from the row of the pattern behind it: each answer looks back at the one before.
-/
theorem Answers.rowOfStar {pattern text : List Char} {answers : List Bool}
    (h : Answers pattern text answers) :
    Answers ('*' :: pattern) text (rowOfStar answers) := by
  induction h with
  | nil h =>
      refine .nil ?_
      rw [matches_star_nil_iff, ← h]
      simp [Glob.rowOfStar]
  | cons h _ ih =>
      refine .cons ?_ ih
      rw [matches_star_cons_iff, ← h, ← ih.headD_iff, Bool.or_eq_true]

theorem Answers.rowOfChar {p : Char} (hstar : p ≠ '*') {pattern text : List Char}
    {answers : List Bool} (h : Answers pattern text answers) :
    Answers (p :: pattern) text (rowOfChar p text answers) := by
  induction h with
  | nil => exact .nil (iff_of_false Bool.false_ne_true (not_matches_char_nil hstar pattern))
  | cons _ hshorter ih =>
      refine .cons ?_ ih
      rw [matches_char_cons_iff hstar, ← hshorter.headD_iff, Bool.and_eq_true, List.tail_cons]

theorem answers_row (pattern text : List Char) : Answers pattern text (row pattern text) := by
  induction pattern with
  | nil => exact answers_rowOfEnd text
  | cons p pattern ih =>
      rw [row]
      split
      · subst p
        exact ih.rowOfStar
      · exact ih.rowOfChar ‹_›

theorem test_eq_true_iff_matches {pattern text : String} :
    test pattern text = true ↔ Matches pattern.toList text.toList :=
  (answers_row pattern.toList text.toList).headD_iff

/-! ## Pieces -/

inductive StandsFor : Char → List Char → Prop
  | run (piece : List Char) : StandsFor '*' piece
  | one (c : Char) : StandsFor '?' [c]
  | itself {p : Char} (hstar : p ≠ '*') (hany : p ≠ '?') : StandsFor p [p]

/-- A text cut into pieces in order, one for each character of a pattern. -/
def IsCut (pattern : List Char) (pieces : List (List Char)) (text : List Char) : Prop :=
  List.Forall₂ StandsFor pattern pieces ∧ text = pieces.flatten

theorem StandsFor.of_fits {p c : Char} (hstar : p ≠ '*') (h : fits p c = true) : StandsFor p [c] := by
  by_cases hany : p = '?'
  · subst p
    exact .one c
  · have hsame : p = c := by simpa [fits, hany] using h
    exact hsame ▸ .itself hstar hany

/-- In a match the pieces grow with the text: a star's piece by one character at a time. -/
theorem Matches.exists_isCut {pattern text : List Char} (h : Matches pattern text) :
    ∃ pieces, IsCut pattern pieces text := by
  induction h with
  | nil => exact ⟨[], .nil, rfl⟩
  | starNone _ ih =>
      obtain ⟨pieces, hstand, htext⟩ := ih
      exact ⟨[] :: pieces, .cons (.run []) hstand, htext⟩
  | starMore c _ ih =>
      obtain ⟨pieces, hstand, rfl⟩ := ih
      cases hstand with
      | cons _ hothers => exact ⟨(c :: _) :: _, .cons (.run _) hothers, rfl⟩
  | any c _ ih =>
      obtain ⟨pieces, hstand, rfl⟩ := ih
      exact ⟨[c] :: pieces, .cons (.one c) hstand, rfl⟩
  | same c hstar _ ih =>
      obtain ⟨pieces, hstand, rfl⟩ := ih
      exact ⟨[c] :: pieces, .cons (.of_fits hstar (by simp [fits])) hstand, rfl⟩

theorem matches_star_append {pattern text : List Char} (h : Matches pattern text) (piece : List Char) :
    Matches ('*' :: pattern) (piece ++ text) := by
  induction piece with
  | nil => exact .starNone h
  | cons c piece ih => exact .starMore c ih

theorem Matches.of_isCut {pattern text : List Char} {pieces : List (List Char)}
    (h : IsCut pattern pieces text) : Matches pattern text := by
  obtain ⟨hstand, rfl⟩ := h
  induction hstand with
  | nil => exact .nil
  | cons hfirst _ ih =>
      cases hfirst with
      | run => exact matches_star_append ih _
      | one c => exact .any c ih
      | itself hstar => exact .same _ hstar ih

/--
A pattern matches a text exactly when the text can be cut into pieces, in order and one for each
character of the pattern: any piece for a star, one character for a question mark, and for any other
character the character itself.
-/
theorem test_eq_true_iff_isCut (pattern text : String) :
    test pattern text = true ↔ ∃ pieces, IsCut pattern.toList pieces text.toList := by
  rw [test_eq_true_iff_matches]
  constructor
  · exact Matches.exists_isCut
  · rintro ⟨pieces, hcut⟩
    exact .of_isCut hcut

/-- Two stars in a row may share a text, and stand for nothing behind it. -/
example : test "a**?" "abc" = true ∧ test "a**?" "a" = false := by decide

end Glob

end SampleData
