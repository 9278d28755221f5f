/-!
# Pieces of a text

Cutting a text at its first separator, taking a fixed opening or closing off,
looking for a text inside another, and the lines of a text.
-/

namespace SampleData

namespace Text

/-- Cut a text at the first character equal to `mark`, which belongs to neither part. -/
def cutAt (mark : Char) : List Char → Option (List Char × List Char)
  | [] => none
  | c :: rest =>
      if c = mark then
        some ([], rest)
      else
        (cutAt mark rest).map fun (before, after) => (c :: before, after)

/-- A cut gives the text back when the mark is put between its parts. -/
theorem cutAt_eq_some {mark : Char} {text before after : List Char}
    (h : cutAt mark text = some (before, after)) :
    text = before ++ mark :: after := by
  induction text generalizing before with
  | nil => simp [cutAt] at h
  | cons c rest ih =>
      unfold cutAt at h
      by_cases hc : c = mark
      · simp [hc] at h
        simp [h.1, h.2, hc]
      · simp only [hc, if_false, Option.map_eq_some_iff, Prod.mk.injEq] at h
        obtain ⟨⟨front, back⟩, hcut, hfront, hback⟩ := h
        subst hfront hback
        simpa using ih hcut

/-- The first part of a cut does not hold the mark, so the cut is at the first one. -/
theorem cutAt_append {mark : Char} {before : List Char} (h : mark ∉ before)
    (after : List Char) :
    cutAt mark (before ++ mark :: after) = some (before, after) := by
  induction before with
  | nil => simp [cutAt]
  | cons c rest ih =>
      simp only [List.mem_cons, not_or] at h
      have hc : c ≠ mark := fun he => h.1 he.symm
      simp [cutAt, hc, ih h.2]

theorem cutAt_eq_none {mark : Char} {text : List Char} (h : mark ∉ text) :
    cutAt mark text = none := by
  induction text with
  | nil => rfl
  | cons c rest ih =>
      simp only [List.mem_cons, not_or] at h
      have hc : c ≠ mark := fun he => h.1 he.symm
      simp [cutAt, hc, ih h.2]

theorem not_mem_of_cutAt_eq_some {mark : Char} {text before after : List Char}
    (h : cutAt mark text = some (before, after)) : mark ∉ before := by
  induction text generalizing before with
  | nil => cases h
  | cons c rest ih =>
      rw [cutAt] at h
      by_cases hc : c = mark
      · rw [if_pos hc] at h
        cases h
        exact List.not_mem_nil
      · rw [if_neg hc, Option.map_eq_some_iff] at h
        obtain ⟨⟨front, back⟩, hcut, hparts⟩ := h
        cases hparts
        exact List.not_mem_cons_of_ne_of_not_mem (Ne.symm hc) (ih hcut)

def afterOpening? : List Char → List Char → Option (List Char)
  | [], text => some text
  | _ :: _, [] => none
  | o :: opening, c :: text =>
      if o = c then afterOpening? opening text else none

theorem afterOpening?_eq_some_iff {opening text rest : List Char} :
    afterOpening? opening text = some rest ↔ text = opening ++ rest := by
  induction opening generalizing text with
  | nil => simp [afterOpening?]
  | cons o opening ih =>
      cases text with
      | nil => simp [afterOpening?]
      | cons c text =>
          by_cases hc : o = c
          · simp [afterOpening?, hc, ih]
          · have hc' : c ≠ o := fun he => hc he.symm
            simp [afterOpening?, hc, hc']

def beforeClosing? (closing : Char) (text : List Char) : Option (List Char) :=
  match text.reverse with
  | [] => none
  | c :: front => if c = closing then some front.reverse else none

def contains (sought : List Char) : List Char → Bool
  | [] => sought.isEmpty
  | c :: rest => sought.isPrefixOf (c :: rest) || contains sought rest

def containsString (text sought : String) : Bool :=
  contains sought.toList text.toList

/-- A line without the carriage return it ends with. -/
def dropReturn (line : List Char) : List Char :=
  (beforeClosing? '\r' line).getD line

/--
The pieces between line feeds as lines: a carriage return before a line feed belongs
to the line end, and what stands after the last line feed is a line only if it is not empty.
-/
def linesOfPieces : List (List Char) → List (List Char)
  | [] => []
  | [last] => if last.isEmpty then [] else [last]
  | piece :: rest => dropReturn piece :: linesOfPieces rest

def lines (text : List Char) : List (List Char) :=
  linesOfPieces (text.splitOn '\n')

def joined (separator : List Char) (texts : List (List Char)) : List Char :=
  separator.intercalate texts

end Text

end SampleData
