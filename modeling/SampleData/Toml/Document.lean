import SampleData.Toml.Lexical
import SampleData.Toml.Value

/-!
# Reading a TOML document

Values are read by recursion on fuel that the length of the text bounds.  A document is a
sequence of sections, each with a header and key lines; the sections build the tree one
after the other.
-/

namespace SampleData

namespace Toml

/-- A key and its value as a line or an inline table gives them. -/
abbrev Pair := (List String × String) × Value

/-- How deep arrays and inline tables may stand in each other. -/
def depthLimit : Nat := 79

def plainValue? (word : List Char) : Option Value :=
  if word = "true".toList then some (.boolean true)
  else if word = "false".toList then some (.boolean false)
  else match integer? word with
    | some number => some (.integer number)
    | none =>
        if isFloat word then some .float
        else if isMoment word then some .moment
        else none

mutual

def valueFuel : Nat → Nat → Reader Value
  | 0, _, _ => none
  | fuel + 1, depth, text =>
      match text with
      | [] => none
      | c :: rest =>
          if c = '"' || c = '\'' then
            (string (c :: rest)).map fun (body, after) => (.string (String.ofList body), after)
          else if c = '[' then
            match depth with
            | 0 => none
            | depth + 1 =>
                (itemsFuel fuel depth (skipLines rest)).map fun (items, after) =>
                  (.array false items, after)
          else if c = '\x7b' then
            match depth with
            | 0 => none
            | depth + 1 => do
                let (pairs, after) ← match skipSpace rest with
                  | '\x7d' :: after => some ([], after)
                  | start => pairsFuel fuel depth start
                let entries ← setKeys pairs []
                some (.table .inline entries, after)
          else do
            let (word, after) := plainWord (c :: rest)
            let value ← plainValue? word
            some (value, after)

/-- The items of an array up to its closing bracket; a comma may follow the last. -/
def itemsFuel : Nat → Nat → Reader (List Value)
  | 0, _, _ => none
  | fuel + 1, depth, text =>
      match text with
      | ']' :: after => some ([], after)
      | _ => do
          let (value, rest) ← valueFuel fuel depth text
          match skipLines rest with
          | ']' :: after => some ([value], after)
          | ',' :: more => do
              let (others, after) ← itemsFuel fuel depth (skipLines more)
              some (value :: others, after)
          | _ => none

/-- The pairs of an inline table up to its closing brace, at least one. -/
def pairsFuel : Nat → Nat → Reader (List Pair)
  | 0, _, _ => none
  | fuel + 1, depth, text => do
      let (key, rest) ← keyPath text
      match rest with
      | '=' :: rest => do
          let (value, rest) ← valueFuel fuel depth (skipSpace rest)
          match skipSpace rest with
          | '\x7d' :: after => some ([(key, value)], after)
          | ',' :: more => do
              let (others, after) ← pairsFuel fuel depth more
              some ((key, value) :: others, after)
          | _ => none
      | _ => none

end

/-- A value; every call of a reader of values comes with a character of the text. -/
def value (text : List Char) : Option (Value × List Char) :=
  valueFuel (2 * text.length + 2) depthLimit text

/-! ## Lines and sections -/

inductive Line where
  | table (path : List String) (key : String)
  /-- The header of one more table of an array. -/
  | item (path : List String) (key : String)
  | pair (pair : Pair)
  deriving Inhabited

def line : Reader Line
  | '[' :: '[' :: rest => do
      let ((path, key), rest) ← keyPath rest
      match rest with
      | ']' :: ']' :: after => some (.item path key, after)
      | _ => none
  | '[' :: rest => do
      let ((path, key), rest) ← keyPath rest
      match rest with
      | ']' :: after => some (.table path key, after)
      | _ => none
  | text => do
      let (key, rest) ← keyPath text
      match rest with
      | '=' :: rest => do
          let (read, after) ← value (skipSpace rest)
          some (.pair (key, read), after)
      | _ => none

def linesFuel : Nat → List Char → Option (List Line)
  | 0, _ => none
  | fuel + 1, text =>
      match skipLines text with
      | [] => some []
      | start => do
          let (first, rest) ← line start
          let next ← afterLineEnd? rest
          let others ← linesFuel fuel next
          some (first :: others)

def withoutMark (text : List Char) : List Char :=
  match text with
  | c :: rest => if c.toNat = 0xFEFF then rest else text
  | [] => []

/-- The pairs up to the next header, and the lines from that header on. -/
def sectionPairs : List Line → List Pair × List Line
  | .pair pair :: rest =>
      let (pairs, others) := sectionPairs rest
      (pair :: pairs, others)
  | others => ([], others)

theorem length_sectionPairs (lines : List Line) :
    (sectionPairs lines).2.length ≤ lines.length := by
  induction lines with
  | nil => simp [sectionPairs]
  | cons first rest ih =>
      cases first with
      | pair pair =>
          simp only [sectionPairs, List.length_cons]
          omega
      | table path key => simp [sectionPairs]
      | item path key => simp [sectionPairs]

def addSections (lines : List Line) (root : Entries) : Option Entries :=
  match lines with
  | [] => some root
  | .pair _ :: _ => none
  | .table path key :: rest => do
      let root ← openTable path key (sectionPairs rest).1 root
      addSections (sectionPairs rest).2 root
  | .item path key :: rest => do
      let root ← addTable path key (sectionPairs rest).1 root
      addSections (sectionPairs rest).2 root
termination_by lines.length
decreasing_by
  all_goals
    have h := length_sectionPairs rest
    simp only [List.length_cons]
    omega

/-- The tree that lines of a document build: keys before the first header belong to the document. -/
def ofLines (lines : List Line) : Option Value := do
  let root ← setKeys (sectionPairs lines).1 []
  let root ← addSections (sectionPairs lines).2 root
  some (.table .header root)

def parse (text : String) : Option Value := do
  let text := withoutMark text.toList
  let lines ← linesFuel (text.length + 1) text
  ofLines lines

end Toml

end SampleData
