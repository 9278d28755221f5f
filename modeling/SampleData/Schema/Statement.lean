import SampleData.Text.Ascii
import SampleData.Text.Blank
import SampleData.Text.Pieces

/-!
# Statements of a schema file

A schema file is a text of statements that semicolons end.  Whole lines may be comments.
A semicolon between quotes of any of three kinds ends nothing, and a backslash takes the
meaning from the quote after it.
-/

namespace SampleData

namespace Schema

/-! ## Comments -/

/-- Whether a line is a comment: it starts with two hyphens or two slashes, blanks aside. -/
def isCommentLine (line : List Char) : Bool :=
  let start := Text.trimStart line
  "--".toList.isPrefixOf start || "//".toList.isPrefixOf start

def withoutComments (text : List Char) : List Char :=
  Text.joined ['\n'] ((Text.lines text).filter fun line => !isCommentLine line)

/-! ## Quotes -/

/--
Where a scan stands: between which quotes, if any, and whether right after an escaping
backslash.
-/
structure ScanState where
  openQuote : Option Char := none
  escaped : Bool := false
  deriving DecidableEq, Repr, Inhabited

def isQuote (c : Char) : Bool :=
  c == '\'' || c == '"' || c == Char.ofNat 0x60

namespace ScanState

/-- The open quote after a character: one that is not escaped opens, or closes what it opened. -/
def quoteAfter (state : ScanState) (c : Char) : Option Char :=
  if isQuote c && !state.escaped then
    match state.openQuote with
    | none => some c
    | some quote => if quote = c then none else some quote
  else
    state.openQuote

def after (state : ScanState) (c : Char) : ScanState :=
  { openQuote := state.quoteAfter c, escaped := c == '\\' && !state.escaped }

def endsStatement (state : ScanState) (c : Char) : Bool :=
  c == ';' && state.openQuote.isNone

end ScanState

/-! ## Splitting -/

/--
Cut a text at the semicolons that end statements.  The scan starts anew after each; the
first piece continues what was read before it.
-/
def piecesFrom (state : ScanState) : List Char → List (List Char)
  | [] => [[]]
  | c :: rest =>
      if state.endsStatement c then
        [] :: piecesFrom {} rest
      else
        match piecesFrom (state.after c) rest with
        | [] => [[c]]
        | piece :: pieces => (c :: piece) :: pieces

/-- The statements of a text: the pieces without blanks at their ends, those not empty. -/
def statements (text : List Char) : List (List Char) :=
  ((piecesFrom {} text).map Text.trim).filter fun statement => !statement.isEmpty

/-! ## Tokens -/

abbrev Token := List Char

def isKeyword (keyword : String) (token : Token) : Bool :=
  Text.sameLetters token keyword.toList

def after? (keyword : String) : List Token → Option (List Token)
  | [] => none
  | token :: rest => if isKeyword keyword token then some rest else after? keyword rest

def mentions (keyword : String) (tokens : List Token) : Bool :=
  tokens.any (isKeyword keyword)

def isClinging (c : Char) : Bool :=
  c == ',' || c == ';' || c == Char.ofNat 0x60

/-- The name in a token, without what clings to it. -/
def nameOf (token : Token) : String :=
  String.ofList (Text.trimWhile isClinging token)

end Schema

end SampleData
