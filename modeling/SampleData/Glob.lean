/-!
# Glob patterns

A pattern is a text in which `*` stands for any run of characters, `?` for any one
character, and every other character for itself.  `Glob.Matches` says so as a relation;
`Glob.test` decides it with one row of answers per pattern character.
-/

namespace SampleData

namespace Glob

/-- A text is made of one piece per pattern character, in order. -/
inductive Matches : List Char → List Char → Prop
  | nil : Matches [] []
  | starNone {pattern text : List Char} :
      Matches pattern text → Matches ('*' :: pattern) text
  /-- A star may stand for one more character. -/
  | starMore {pattern text : List Char} (c : Char) :
      Matches ('*' :: pattern) text → Matches ('*' :: pattern) (c :: text)
  | any {pattern text : List Char} (c : Char) :
      Matches pattern text → Matches ('?' :: pattern) (c :: text)
  | same {pattern text : List Char} (c : Char) (h : c ≠ '*') :
      Matches pattern text → Matches (c :: pattern) (c :: text)

def fits (p c : Char) : Bool :=
  p == '?' || p == c

/-- The answers of the empty pattern for a text and all its shorter endings. -/
def rowOfEnd : List Char → List Bool
  | [] => [true]
  | _ :: text => false :: rowOfEnd text

/-- A star fits an ending when the rest of the pattern fits it or a shorter ending. -/
def rowOfStar : List Bool → List Bool
  | [] => []
  | answer :: shorter =>
      let rest := rowOfStar shorter
      (answer || rest.headD false) :: rest

def rowOfChar (p : Char) : List Char → List Bool → List Bool
  | [], _ => [false]
  | c :: text, row => (fits p c && row.tail.headD false) :: rowOfChar p text row.tail

/-- The answers of a pattern for a text and all its shorter endings, the longest first. -/
def row : List Char → List Char → List Bool
  | [], text => rowOfEnd text
  | p :: pattern, text =>
      if p = '*' then
        rowOfStar (row pattern text)
      else
        rowOfChar p text (row pattern text)

def test (pattern text : String) : Bool :=
  (row pattern.toList text.toList).headD false

end Glob

end SampleData
