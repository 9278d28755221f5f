import SampleData.Account
import SampleData.Text.Blank
import SampleData.Text.Pieces
import SampleData.Text.Upper

/-!
# Environment files

Variables written as `NAME=value` lines.  A variable is asked for by its name in capitals,
so one written in small letters is never found.
-/

namespace SampleData

/-- Named variables; of two with one name the later counts. -/
structure Environment where
  entries : List (String × String) := []
  deriving DecidableEq, Repr, Inhabited

namespace Environment

def unquoted (value : List Char) : List Char :=
  match value with
  | '"' :: rest => (Text.beforeClosing? '"' rest).getD value
  | _ => value

/--
The variable that a line sets: none for an empty line, a comment or a line without an equals
sign.
-/
def ofLine? (line : List Char) : Option (String × String) :=
  match line with
  | '#' :: _ => none
  | _ =>
      (Text.cutAt '=' line).map fun (name, value) =>
        (String.ofList (Text.trim name), String.ofList (unquoted (Text.trim value)))

def ofLines (lines : List String) : Environment :=
  ⟨lines.filterMap fun line => ofLine? line.toList⟩

/-- The value of a variable, whose name is put in capitals first. -/
def get? (environment : Environment) (name : String) : Option String :=
  environment.entries.reverse.lookup (Text.upperString name)

end Environment

/-- The administrator of a bootstrap: the password comes from the environment if it is set there. -/
def Bootstrap.admin (bootstrap : Bootstrap) (environment : Environment) : Account :=
  { table := bootstrap.userTable,
    username := bootstrap.adminUsername,
    email := bootstrap.adminEmail,
    password :=
      (bootstrap.adminPasswordVariable.bind environment.get?).getD bootstrap.adminPassword }

end SampleData
