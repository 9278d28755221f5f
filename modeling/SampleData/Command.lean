/-!
# Commands

What the program can be asked to do.
-/

namespace SampleData

/-- How a generation differs from what the project's configuration says. -/
structure GenerateOptions where
  exclude : List String := []
  count : Option Nat := none
  seed : Option Nat := none
  dryRun : Bool := false
  deriving DecidableEq, Repr, Inhabited

inductive Command where
  | init
  /-- List the models in the order they would be filled. -/
  | models (exclude : List String)
  | generate (options : GenerateOptions)
  deriving DecidableEq, Repr, Inhabited

end SampleData
