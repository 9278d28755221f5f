import SampleData.Account
import SampleData.Failure
import SampleData.Value

/-!
# Events

What happens in a run as an observer sees it: lines printed, entries logged, and calls of
the store with their answers.
-/

namespace SampleData

inductive Level where
  | error
  | warn
  | info
  | debug
  deriving DecidableEq, Repr, Inhabited

def Level.label : Level → String
  | error => "error"
  | warn => "warn"
  | info => "info"
  | debug => "debug"

/-- An entry of the log, with named details. -/
structure LogEntry where
  level : Level
  message : String
  details : List (String × String) := []
  deriving DecidableEq, Repr, Inhabited

inductive Event where
  | line (text : String)
  | log (entry : LogEntry)
  | groupEnsured (table name : String) (answer : Except Failure Bool)
  | adminEnsured (account : Account) (answer : Except Failure Bool)
  /-- The store is asked to save an instance; whether it did is in the answer. -/
  | saved (record : Record) (model : Model) (values : Values) (answer : Except Failure Unit)
  | picked (table : String) (answer : Except Failure (Option Record))
  | related (record : Record) (field : String) (targets : List Record)
      (answer : Except Failure Unit)

namespace Event

def line? : Event → Option String
  | line text => some text
  | _ => none

def entry? : Event → Option LogEntry
  | log entry => some entry
  | _ => none

end Event

end SampleData
