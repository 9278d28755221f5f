/-!
# Accounts

The groups and the administrator that a run makes sure of before it fills any model.
-/

namespace SampleData

structure Account where
  table : String
  username : String
  email : String
  password : String
  deriving DecidableEq, Repr, Inhabited

/-- Which groups and which administrator a run makes sure of. -/
structure Bootstrap where
  groupTable : String := "group"
  groups : List String := ["managers", "operators", "superoperators"]
  userTable : String := "user"
  adminUsername : String := "admin"
  adminEmail : String := "admin@example.com"
  adminPassword : String := "admin"
  /-- The variable that holds the administrator's password, when there is one. -/
  adminPasswordVariable : Option String := none
  deriving DecidableEq, Repr, Inhabited

end SampleData
