import SampleData.Run.Event
import SampleData.Store

/-!
# Bootstrap

Making sure of the groups and of an administrator.  No failure stops it: each is logged and
the next is tried.
-/

namespace SampleData

namespace Bootstrap

def groupEntry (name : String) : Except Failure Bool → LogEntry
  | .ok true => { level := .info, message := "created group", details := [("group", name)] }
  | .ok false =>
      { level := .debug, message := "group already exists", details := [("group", name)] }
  | .error failure =>
      { level := .error, message := "error creating group: " ++ failure.message,
        details := [("group", name)] }

def adminEntry (account : Account) : Except Failure Bool → LogEntry
  | .ok true =>
      { level := .info, message := "created admin account",
        details := [("username", account.username)] }
  | .ok false => { level := .debug, message := "an admin account already exists" }
  | .error failure =>
      { level := .error, message := "error creating admin account: " ++ failure.message }

variable {σ : Type}

def ensureGroups (store : Store σ) (table : String) : List String → StateM σ (List Event)
  | [] => pure []
  | name :: rest => do
      let answer ← store.ensureGroup table name
      let events ← ensureGroups store table rest
      pure (.groupEnsured table name answer :: .log (groupEntry name answer) :: events)

def ensureAdmin (store : Store σ) (account : Account) : StateM σ (List Event) := do
  let answer ← store.ensureAdmin account
  pure [.adminEnsured account answer, .log (adminEntry account answer)]

/-- Make sure of the groups and then of the administrator: the events in order. -/
def run (store : Store σ) (bootstrap : Bootstrap) (account : Account) :
    StateM σ (List Event) := do
  let groups ← ensureGroups store bootstrap.groupTable bootstrap.groups
  let admin ← ensureAdmin store account
  pure (groups ++ admin)

end Bootstrap

end SampleData
