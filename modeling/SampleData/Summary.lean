/-!
# Summaries

What a run did: for each model that was filled, how many instances were attempted and
how many were created; the models left out; and how many link sets were set.
-/

namespace SampleData

structure Outcome where
  label : String
  attempted : Nat
  created : Nat
  deriving DecidableEq, Repr, Inhabited

structure Summary where
  processed : List Outcome := []
  /-- The labels of the models that were left out, in order. -/
  skipped : List String := []
  linksSet : Nat := 0
  deriving DecidableEq, Repr, Inhabited

namespace Summary

def createdTotal (summary : Summary) : Nat :=
  (summary.processed.map Outcome.created).foldr (· + ·) 0

def outcome? (summary : Summary) (label : String) : Option Outcome :=
  summary.processed.find? fun outcome => outcome.label == label

/-- The line about an outcome, if some instances could not be created. -/
def shortfall? (outcome : Outcome) : Option String :=
  if outcome.created < outcome.attempted then
    some s!"  {outcome.label}: {outcome.attempted - outcome.created} of {outcome.attempted} records failed"
  else
    none

def lines (summary : Summary) : List String :=
  [s!"Successfully generated data for {summary.processed.length} models",
   s!"  records: {summary.createdTotal} created, {summary.linksSet} many-to-many sets linked"]
  ++ summary.processed.filterMap shortfall?
  ++ (if summary.skipped.isEmpty then [] else
      ["Skipped models: " ++ ", ".intercalate summary.skipped])

end Summary

end SampleData
