import SampleData.Account
import SampleData.Calendar.Written
import SampleData.Naming
import SampleData.Value

/-!
# Statements

The text of what is asked of a database, and the values that are bound to its parameters.
Values never stand in the text: only names and records do.
-/

namespace SampleData

inductive Parameter where
  | text (content : String)
  | integer (number : Int)
  | boolean (flag : Bool)
  deriving DecidableEq, Repr, Inhabited

/-- A statement with the values bound to its parameters, in order. -/
structure Statement where
  text : String
  bindings : List (String × Parameter) := []
  deriving DecidableEq, Repr, Inhabited

namespace Statement

/-! ## Groups and administrators -/

def findGroup (table name : String) : Statement :=
  { text := "SELECT <string> id AS id FROM type::table($tb) WHERE name = $name LIMIT 1;",
    bindings := [("tb", .text table), ("name", .text name)] }

def createGroup (table name : String) : Statement :=
  { text := "CREATE type::table($tb) SET name = $name;",
    bindings := [("tb", .text table), ("name", .text name)] }

def findAdmin (table : String) : Statement :=
  { text := "SELECT <string> id AS id FROM type::table($tb) WHERE is_superuser = true LIMIT 1;",
    bindings := [("tb", .text table)] }

def createAdmin (account : Account) : Statement :=
  { text :=
      "CREATE type::table($tb) SET username = $username, email = $email, " ++
      "password = crypto::argon2::generate($password), is_superuser = true, " ++
      "is_staff = true, is_active = true;",
    bindings :=
      [("tb", .text account.table), ("username", .text account.username),
       ("email", .text account.email), ("password", .text account.password)] }

/-! ## Records -/

def findAny (table : String) : Statement :=
  { text := "SELECT <string> id AS id FROM type::table($tb) ORDER BY rand() LIMIT 1;",
    bindings := [("tb", .text table)] }

def parameterName (place : Nat) : String :=
  "v" ++ toString place

/--
What stands for a value in a statement's text, and the value bound to its parameter if it has
one.
-/
def expression (parameter : String) : Value → Except Failure (String × Option Parameter)
  | .record target => .ok (target.text, none)
  | .text content => .ok ("$" ++ parameter, some (.text content))
  | .integer number => .ok ("$" ++ parameter, some (.integer number))
  | .boolean flag => .ok ("$" ++ parameter, some (.boolean flag))
  | .decimal numeral => .ok ("<decimal> $" ++ parameter, some (.text numeral))
  | .dateTime instant => do
      let written ← instant.written
      .ok ("<datetime> $" ++ parameter, some (.text written))
  | .date day => do
      let written ← day.midnight.written
      .ok ("<datetime> $" ++ parameter, some (.text written))

/-- The assignments of values from a place on, and what is bound for them. -/
def assignments : Nat → Values → Except Failure (List String × List (String × Parameter))
  | _, [] => .ok ([], [])
  | place, (field, value) :: rest => do
      let parameter := parameterName place
      let (text, bound) ← expression parameter value
      let (texts, bindings) ← assignments (place + 1) rest
      .ok ((field ++ " = " ++ text) :: texts,
        (bound.map fun bound => (parameter, bound)).toList ++ bindings)

def settingText (texts : List String) : String :=
  if texts.isEmpty then "" else " SET " ++ ", ".intercalate texts

def createRecord (record : Record) (values : Values) : Except Failure Statement := do
  let (texts, bindings) ← assignments 0 values
  .ok { text := "CREATE " ++ record.text ++ settingText texts ++ " RETURN NONE;", bindings }

def setLinks (record : Record) (field : String) (targets : List Record) : Statement :=
  { text :=
      "UPDATE " ++ record.text ++ " SET " ++ field ++ " = [" ++
      ", ".intercalate (targets.map Record.text) ++ "] RETURN NONE;" }

end Statement

end SampleData
