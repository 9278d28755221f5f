/-!
# Values of a TOML document

The tree that a document stands for.  A table remembers how it came about, because that
decides whether a later line of the document may add to it; an array remembers whether it
was built by table headers, because only such an array may grow.
-/

namespace SampleData

namespace Toml

inductive Origin where
  /-- By a header of its own, or as the document itself. -/
  | header
  /-- As an outer part of the path in some header. -/
  | implied
  /-- As an outer part of the path in front of an equals sign. -/
  | dotted
  | inline
  deriving DecidableEq, Repr, Inhabited

inductive Value where
  | string (text : String)
  | integer (number : Int)
  | boolean (flag : Bool)
  /-- A number with a fraction or an exponent; its size is never asked for. -/
  | float
  /-- A date, a time or both; never asked for either. -/
  | moment
  /-- An array, with a flag for one built by headers. -/
  | array (byHeaders : Bool) (items : List Value)
  | table (origin : Origin) (entries : List (String × Value))
  deriving Repr, Inhabited

/-- The entries of a table in order of their first mention. -/
abbrev Entries := List (String × Value)

namespace Entries

def put (key : String) (value : Value) : Entries → Entries
  | [] => [(key, value)]
  | (k, v) :: rest => if k = key then (k, value) :: rest else (k, v) :: put key value rest

end Entries

/-! ## Building a document -/

inductive Descent where
  /-- For a header: a missing table is implied, and every table may be entered. -/
  | byHeader
  /--
  For a dotted key: a missing table is dotted, and only a table without header may be entered.
  -/
  | byKey
  deriving DecidableEq, Repr, Inhabited

namespace Descent

def missing : Descent → Origin
  | byHeader => .implied
  | byKey => .dotted

def admits : Descent → Origin → Bool
  | _, .inline => false
  | byHeader, _ => true
  | byKey, origin => origin == .implied || origin == .dotted

end Descent

/--
Change the table at the end of a path, entering the tables on the way.  On an array built
by headers the way goes into its last table.
-/
def changeAt (descent : Descent) (change : Origin → Entries → Option Entries) :
    List String → Origin → Entries → Option Entries
  | [], origin, entries => change origin entries
  | key :: path, _, entries =>
      match entries.lookup key with
      | none => do
          let inner ← changeAt descent change path descent.missing []
          some (entries.put key (.table descent.missing inner))
      | some (.table origin inner) =>
          if descent.admits origin then do
            let inner ← changeAt descent change path origin inner
            some (entries.put key (.table origin inner))
          else
            none
      | some (.array true tables) =>
          match tables.reverse with
          | .table origin inner :: earlier => do
              let inner ← changeAt descent change path origin inner
              some (entries.put key (.array true (earlier.reverse ++ [.table origin inner])))
          | _ => none
      | some _ => none

/-- Put a value under a dotted key; no key may be set twice. -/
def setKey (path : List String) (key : String) (value : Value) (entries : Entries) :
    Option Entries :=
  let set (origin : Origin) (entries : Entries) : Option Entries :=
    if (origin == .dotted) == path.isEmpty then none
    else if (entries.lookup key).isSome then none
    else some (entries.put key value)
  changeAt .byKey set path .header entries

def setKeys (pairs : List ((List String × String) × Value)) (entries : Entries) :
    Option Entries :=
  pairs.foldlM (fun entries pair => setKey pair.1.1 pair.1.2 pair.2 entries) entries

/--
Open a table by its header and set keys in it: it must be missing or only implied so far.
-/
def openTable (path : List String) (key : String)
    (pairs : List ((List String × String) × Value)) (root : Entries) : Option Entries :=
  let enter (_ : Origin) (entries : Entries) : Option Entries :=
    match entries.lookup key with
    | none => do
        let inner ← setKeys pairs []
        some (entries.put key (.table .header inner))
    | some (.table .implied inner) => do
        let inner ← setKeys pairs inner
        some (entries.put key (.table .header inner))
    | some _ => none
  changeAt .byHeader enter path .header root

/--
Add a table to an array by its header and set keys in it: the array is missing or built by
headers.
-/
def addTable (path : List String) (key : String)
    (pairs : List ((List String × String) × Value)) (root : Entries) : Option Entries :=
  let enter (_ : Origin) (entries : Entries) : Option Entries := do
    let inner ← setKeys pairs []
    match entries.lookup key with
    | none => some (entries.put key (.array true [.table .header inner]))
    | some (.array true tables) =>
        some (entries.put key (.array true (tables ++ [.table .header inner])))
    | some _ => none
  changeAt .byHeader enter path .header root

end Toml

end SampleData
