import SampleData.Text.Ascii
import SampleData.Text.Digit
import SampleData.Text.Pieces

/-!
# Words of a TOML document

Blanks, comments, keys, strings and numbers.  A reader takes the rest of the text and gives
what it read with what is left, or nothing when the text is not of its form.
-/

namespace SampleData

namespace Toml

open Text (isPlainDigit isUpperLetter isLowerLetter)

abbrev Reader (α : Type) := List Char → Option (α × List Char)

/-! ## Blanks and line ends -/

def isSpace (c : Char) : Bool :=
  c == ' ' || c == '\t'

def skipSpace (text : List Char) : List Char :=
  text.dropWhile isSpace

/-- A character that a comment may hold: no control character but the tab. -/
def isCommentChar (c : Char) : Bool :=
  c == '\t' || (0x20 ≤ c.toNat && c != Char.ofNat 0x7F)

def skipComment (text : List Char) : List Char :=
  match text with
  | '#' :: rest => rest.dropWhile isCommentChar
  | _ => text

/-- The text after a line feed, with or without a carriage return before it. -/
def afterNewline? : List Char → Option (List Char)
  | '\n' :: rest => some rest
  | '\r' :: '\n' :: rest => some rest
  | _ => none

/-- The text after the end of a line, before which spaces and a comment may stand. -/
def afterLineEnd? (text : List Char) : Option (List Char) :=
  match skipComment (skipSpace text) with
  | [] => some []
  | rest => afterNewline? rest

/-- The text after spaces, comments and line ends, with fuel for each line. -/
def skipLinesFuel : Nat → List Char → List Char
  | 0, text => text
  | fuel + 1, text =>
      let rest := skipComment (skipSpace text)
      match afterNewline? rest with
      | some next => skipLinesFuel fuel next
      | none => rest

def skipLines (text : List Char) : List Char :=
  skipLinesFuel (text.length + 1) text

/-! ## Strings -/

def hexDigit? (c : Char) : Option Nat :=
  if isPlainDigit c then some (c.toNat - '0'.toNat)
  else if 'a' ≤ c && c ≤ 'f' then some (c.toNat - 'a'.toNat + 10)
  else if 'A' ≤ c && c ≤ 'F' then some (c.toNat - 'A'.toNat + 10)
  else none

def pointChar? (digits : List Char) : Option Char := do
  let values ← digits.mapM hexDigit?
  let point := values.foldl (fun total value => total * 16 + value) 0
  if point.isValidChar then some (Char.ofNat point) else none

def shortEscape? : Char → Option Char
  | 'b' => some (Char.ofNat 8)
  | 't' => some '\t'
  | 'n' => some '\n'
  | 'f' => some (Char.ofNat 12)
  | 'r' => some '\r'
  | '"' => some '"'
  | '\\' => some '\\'
  | _ => none

/-- A character that stands for itself between double quotes. -/
def isBasicChar (c : Char) : Bool :=
  c == '\t' || (0x20 ≤ c.toNat && c != '"' && c != '\\' && c != Char.ofNat 0x7F)

def isLiteralChar (c : Char) : Bool :=
  c == '\t' || (0x20 ≤ c.toNat && c != '\'' && c != Char.ofNat 0x7F)

def consResult (c : Char) (result : Option (List Char × List Char)) :
    Option (List Char × List Char) :=
  result.map fun (body, rest) => (c :: body, rest)

def escape : Reader Char
  | 'u' :: a :: b :: c :: d :: rest => (pointChar? [a, b, c, d]).map fun x => (x, rest)
  | 'U' :: a :: b :: c :: d :: e :: f :: g :: h :: rest =>
      (pointChar? [a, b, c, d, e, f, g, h]).map fun x => (x, rest)
  | letter :: rest => (shortEscape? letter).map fun x => (x, rest)
  | [] => none

def basicBodyFuel : Nat → Reader (List Char)
  | 0, _ => none
  | _ + 1, [] => none
  | fuel + 1, c :: rest =>
      if c = '"' then
        some ([], rest)
      else if c = '\\' then do
        let (x, rest) ← escape rest
        consResult x (basicBodyFuel fuel rest)
      else if isBasicChar c then
        consResult c (basicBodyFuel fuel rest)
      else
        none

def literalBody : Reader (List Char)
  | [] => none
  | c :: rest =>
      if c = '\'' then some ([], rest)
      else if isLiteralChar c then consResult c (literalBody rest)
      else none

def lineString : Reader (List Char)
  | '"' :: rest => basicBodyFuel (rest.length + 1) rest
  | '\'' :: rest => literalBody rest
  | _ => none

/-- How many of the first five characters are a quote, before the first that is not. -/
def quoteRun (quote : Char) (text : List Char) : Nat :=
  ((text.take 5).takeWhile fun c => c == quote).length

/--
The text after a backslash that ends its line: the following blanks and line ends do not count.
-/
def afterFold? (text : List Char) : Option (List Char) :=
  (afterNewline? (skipSpace text)).map fun rest => skipFold (rest.length + 1) rest
where
  /-- The text after blanks and line ends, with fuel for each line. -/
  skipFold : Nat → List Char → List Char
    | 0, text => text
    | fuel + 1, text =>
        match afterNewline? (skipSpace text) with
        | some rest => skipFold fuel rest
        | none => skipSpace text

/--
The text between triple quotes, after the first three.  Up to two quotes may stand right
before the last three.
-/
def longBodyFuel (quote : Char) (escapes : Bool) : Nat → Reader (List Char)
  | 0, _ => none
  | _ + 1, [] => none
  | fuel + 1, c :: rest =>
      if c = quote then
        let run := quoteRun quote (c :: rest)
        if 3 ≤ run then
          some (List.replicate (run - 3) quote, (c :: rest).drop run)
        else
          consResult c (longBodyFuel quote escapes fuel rest)
      else if escapes && c == '\\' then
        match afterFold? rest with
        | some next => longBodyFuel quote escapes fuel next
        | none => do
            let (x, rest) ← escape rest
            consResult x (longBodyFuel quote escapes fuel rest)
      else
        match afterNewline? (c :: rest) with
        | some next => consResult '\n' (longBodyFuel quote escapes fuel next)
        | none =>
            if (if escapes then isBasicChar c else isLiteralChar c) then
              consResult c (longBodyFuel quote escapes fuel rest)
            else
              none

/-- The body of a string in triple quotes; a line end right after the first three does not count. -/
def longBody (quote : Char) (escapes : Bool) (text : List Char) :
    Option (List Char × List Char) :=
  let text := (afterNewline? text).getD text
  longBodyFuel quote escapes (text.length + 1) text

def string : Reader (List Char)
  | '"' :: '"' :: '"' :: rest => longBody '"' true rest
  | '\'' :: '\'' :: '\'' :: rest => longBody '\'' false rest
  | text => lineString text

/-! ## Keys -/

def isBareChar (c : Char) : Bool :=
  isUpperLetter c || isLowerLetter c || isPlainDigit c || c == '-' || c == '_'

/-- One part of a key: a string on one line, or bare characters. -/
def keyPart : Reader String
  | '"' :: rest => (lineString ('"' :: rest)).map fun (body, after) => (String.ofList body, after)
  | '\'' :: rest => (lineString ('\'' :: rest)).map fun (body, after) => (String.ofList body, after)
  | text =>
      let bare := text.takeWhile isBareChar
      if bare.isEmpty then none else some (String.ofList bare, text.dropWhile isBareChar)

/-- The parts of a key between points, with spaces around each: all but the last, and the last. -/
def keyPathFuel : Nat → Reader (List String × String)
  | 0, _ => none
  | fuel + 1, text => do
      let (part, rest) ← keyPart (skipSpace text)
      match skipSpace rest with
      | '.' :: more => do
          let ((outer, last), rest) ← keyPathFuel fuel more
          some ((part :: outer, last), rest)
      | rest => some (([], part), rest)

def partLimit : Nat := 79

def keyPath (text : List Char) : Option ((List String × String) × List Char) := do
  let (key, rest) ← keyPathFuel (text.length + 1) text
  if key.1.length < partLimit then some (key, rest) else none

/-! ## Numbers, dates and truth values -/

/-- Digits of a base with single underscores between them. -/
def spacedDigits? (isDigit : Char → Bool) : List Char → Option (List Char)
  | [] => none
  | [c] => if isDigit c then some [c] else none
  | c :: '_' :: rest =>
      if isDigit c then (spacedDigits? isDigit rest).map (c :: ·) else none
  | c :: rest =>
      if isDigit c then (spacedDigits? isDigit rest).map (c :: ·) else none

def digitsIn (base : Nat) (digits : List Char) : Nat :=
  digits.foldl (fun total c => total * base + (hexDigit? c).getD 0) 0

/-- A decimal number without superfluous zeros in front. -/
def plainDigits? (text : List Char) : Option (List Char) :=
  match text with
  | '0' :: _ :: _ => none
  | _ => spacedDigits? isPlainDigit text

def signed (text : List Char) : Bool × List Char :=
  match text with
  | '-' :: rest => (true, rest)
  | '+' :: rest => (false, rest)
  | _ => (false, text)

/-- A whole number within the signed 64-bit range. -/
def integer? (text : List Char) : Option Int := do
  let value : Int ←
    match text with
    | '0' :: 'x' :: rest => do
        let digits ← spacedDigits? (fun c => (hexDigit? c).isSome) rest
        some (digitsIn 16 digits : Int)
    | '0' :: 'o' :: rest => do
        let digits ← spacedDigits? (fun c => '0' ≤ c && c ≤ '7') rest
        some (digitsIn 8 digits : Int)
    | '0' :: 'b' :: rest => do
        let digits ← spacedDigits? (fun c => c == '0' || c == '1') rest
        some (digitsIn 2 digits : Int)
    | _ => do
        let (negative, rest) := signed text
        let digits ← plainDigits? rest
        let size : Int := digitsIn 10 digits
        some (if negative then -size else size)
  if Int64.minValue.toInt ≤ value && value ≤ Int64.maxValue.toInt then some value else none

/-- Whether a text is an exponent after its letter: a sign at most, and digits. -/
def isExponent (text : List Char) : Bool :=
  (spacedDigits? isPlainDigit (signed text).2).isSome

/-- Whether a text is a fraction after its point, possibly with an exponent. -/
def isFraction (text : List Char) : Bool :=
  let digits := text.takeWhile fun c => isPlainDigit c || c == '_'
  (spacedDigits? isPlainDigit digits).isSome &&
    match text.drop digits.length with
    | [] => true
    | c :: rest => (c == 'e' || c == 'E') && isExponent rest

def isFractional (text : List Char) : Bool :=
  let whole := text.takeWhile fun c => isPlainDigit c || c == '_'
  (plainDigits? whole).isSome &&
    match text.drop whole.length with
    | '.' :: rest => isFraction rest
    | c :: rest => (c == 'e' || c == 'E') && isExponent rest
    | [] => false

def exponentValue (text : List Char) : Int :=
  let (negative, digits) := signed text
  let size : Int := Text.numeralValue (digits.filter isPlainDigit)
  if negative then -size else size

/--
The least number that rounds to none of the finite floating-point numbers of 64 bits: halfway
from the largest of them to the next power of two.
-/
def sizeBound : Nat :=
  Nat.pow 2 1024 - Nat.pow 2 970

/-- How many digits the bound on sizes has. -/
def sizeBoundPlaces : Nat := 309

/--
Whether a number with a fraction or an exponent is at least the bound on sizes.  From its first
digit that is no zero on, the number has as many places before the point as digits stand
there, moved by the exponent; only when these are as many as the bound has do digits decide.
-/
def isOversized (text : List Char) : Bool :=
  let mantissa := text.takeWhile fun c => c != 'e' && c != 'E'
  let fraction := (mantissa.dropWhile fun c => c != '.').filter isPlainDigit
  let digits := (mantissa.filter isPlainDigit).dropWhile fun c => c == '0'
  let places : Int :=
    digits.length - fraction.length + exponentValue (text.drop (mantissa.length + 1))
  !digits.isEmpty &&
    (sizeBoundPlaces < places ||
      (places == sizeBoundPlaces &&
        sizeBound * Nat.pow 10 digits.length ≤
          Text.numeralValue digits * Nat.pow 10 sizeBoundPlaces))

/--
Whether a text is a number with a fraction or an exponent, or one of the special numbers.
A number without a minus sign must not be too large for a floating-point number.
-/
def isFloat (text : List Char) : Bool :=
  let (negative, body) := signed text
  body == "inf".toList || body == "nan".toList ||
    (isFractional body && (negative || !isOversized body))

def twoDigit? (a b : Char) : Option Nat :=
  Text.numeral? 100 [a, b]

def isOffset : List Char → Bool
  | [] => true
  | ['Z'] => true
  | ['z'] => true
  | [sign, a, b, ':', c, d] =>
      (sign == '+' || sign == '-') && (twoDigit? a b).any (· < 24) && (twoDigit? c d).any (· < 60)
  | _ => false

/-- Whether a text is a time of the day; a distance from universal time may follow where allowed. -/
def isTime (withOffset : Bool) : List Char → Bool
  | a :: b :: ':' :: c :: d :: ':' :: e :: f :: rest =>
      (twoDigit? a b).any (· < 24) && (twoDigit? c d).any (· < 60) && (twoDigit? e f).any (· < 61) &&
        (let rest := match rest with
          | '.' :: more =>
              if (more.takeWhile isPlainDigit).isEmpty then rest else more.dropWhile isPlainDigit
          | _ => rest
         if withOffset then isOffset rest else rest.isEmpty)
  | _ => false

def monthDays (year month : Nat) : Nat :=
  if month = 2 then (if year % 4 = 0 ∧ (year % 100 ≠ 0 ∨ year % 400 = 0) then 29 else 28)
  else if month = 4 ∨ month = 6 ∨ month = 9 ∨ month = 11 then 30
  else 31

def afterDate? : List Char → Option (List Char)
  | a :: b :: c :: d :: '-' :: e :: f :: '-' :: g :: h :: rest => do
      let year ← Text.numeral? 10000 [a, b, c, d]
      let month ← twoDigit? e f
      let day ← twoDigit? g h
      if 1 ≤ month && month ≤ 12 && 1 ≤ day && day ≤ monthDays year month then some rest
      else none
  | _ => none

def isMoment (text : List Char) : Bool :=
  isTime false text ||
    match afterDate? text with
    | some [] => true
    | some (c :: rest) => (c == 'T' || c == 't' || c == ' ') && isTime true rest
    | none => false

def isPlainChar (c : Char) : Bool :=
  isBareChar c || c == '+' || c == '.' || c == ':'

/-- A word without quotes; one space may join a date and a time. -/
def plainWord (text : List Char) : List Char × List Char :=
  let word := text.takeWhile isPlainChar
  match afterDate? word, text.drop word.length with
  | some [], ' ' :: rest =>
      let time := rest.takeWhile isPlainChar
      if isTime true time then (word ++ ' ' :: time, rest.drop time.length)
      else (word, ' ' :: rest)
  | _, rest => (word, rest)

end Toml

end SampleData
