/-!
# Blank characters

The characters with the Unicode property White_Space, and the operations on text
that depend on them: trimming either end and cutting a text into words.  Texts are
lists of characters here, so that every operation is a list operation.
-/

namespace SampleData

namespace Text

/-- The closed ranges of code points that have the property White_Space. -/
def blankRanges : List (Nat × Nat) :=
  [(0x0009, 0x000D), (0x0020, 0x0020), (0x0085, 0x0085), (0x00A0, 0x00A0),
   (0x1680, 0x1680), (0x2000, 0x200A), (0x2028, 0x2029), (0x202F, 0x202F),
   (0x205F, 0x205F), (0x3000, 0x3000)]

def isBlank (c : Char) : Bool :=
  blankRanges.any fun range => range.1 ≤ c.toNat && c.toNat ≤ range.2

def trimStart (text : List Char) : List Char :=
  text.dropWhile isBlank

/-- A text without the characters of a class that it ends with. -/
def dropEndWhile (p : Char → Bool) (text : List Char) : List Char :=
  (text.reverse.dropWhile p).reverse

def trimEnd (text : List Char) : List Char :=
  dropEndWhile isBlank text

def trim (text : List Char) : List Char :=
  trimEnd (trimStart text)

def trimWhile (p : Char → Bool) (text : List Char) : List Char :=
  dropEndWhile p (text.dropWhile p)

/-- The words of a text: its longest pieces without a blank. -/
def words (text : List Char) : List (List Char) :=
  (text.splitOnP isBlank).filter fun word => !word.isEmpty

theorem dropEndWhile_concat (p : Char → Bool) (text : List Char) (c : Char) :
    dropEndWhile p (text ++ [c]) =
      if p c then dropEndWhile p text else text ++ [c] := by
  unfold dropEndWhile
  rw [List.reverse_append]
  by_cases h : p c <;> simp [h]

/-- The words of a text with a blank in it are those before and those after it. -/
theorem words_append_blank {c : Char} (hc : isBlank c = true)
    (before after : List Char) :
    words (before ++ c :: after) = words before ++ words after := by
  unfold words
  rw [List.splitOnP_append_cons before after hc, List.filter_append]

end Text

end SampleData
