import SampleData.Text.Hidden

/-!
# Quoted texts

A text between double quotes, as messages show the path of a file: quotes and backslashes
are escaped, and so is every character that would not show by itself.
-/

namespace SampleData

namespace Text

/-- The escape of a character by its code point. -/
def pointEscape (c : Char) : List Char :=
  "\\u\x7b".toList ++ Nat.toDigits 16 c.toNat ++ ['\x7d']

def quotedChar (c : Char) : List Char :=
  if c = '"' || c = '\\' then ['\\', c]
  else if c = '\t' then ['\\', 't']
  else if c = '\n' then ['\\', 'n']
  else if c = '\r' then ['\\', 'r']
  else if c = Char.ofNat 0 then ['\\', '0']
  else if isHidden c then pointEscape c
  else [c]

def quoted (text : String) : String :=
  String.ofList ('"' :: text.toList.flatMap quotedChar ++ ['"'])

end Text

end SampleData
