import SampleData.Proofs.Store.Database
import SampleData.Run.Bootstrap

/-!
# Bootstraps in a database

What a bootstrap sends to a server, whatever the server replies: one errand for each group and
one for the administrator, none of which depends on how the others went.  An errand looks, creates
only what the look did not find, and logs one entry that tells how it went.
-/

namespace SampleData

namespace Bootstrap

open Database

/-! ## Errands -/

/-- What is sent to make sure of something, and the entry that is logged by the answer. -/
structure Errand where
  look : Statement
  create : Statement
  task : Task
  entry : Except Failure Bool → LogEntry

namespace Errand

def group (table name : String) : Errand where
  look := .findGroup table name
  create := .createGroup table name
  task := .creatingGroup name
  entry := groupEntry name

def admin (account : Account) : Errand where
  look := .findAdmin account.table
  create := .createAdmin account
  task := .creatingAdmin account.username
  entry := adminEntry account

variable {errand : Errand} {answer : Except Failure Bool}

end Errand

/-! ## How an errand goes -/

structure Handling where
  looked : Reply
  made : Option Reply
  entry : LogEntry

namespace Errand

def exchanges (errand : Errand) (handling : Handling) : List (Request × Reply) :=
  (.query errand.look, handling.looked) ::
    handling.made.toList.map fun reply => (.query errand.create, reply)

/-- An errand that creates only what is missing and logs what came of it. -/
structure Handled (errand : Errand) (handling : Handling) : Prop where
  /-- The creation is sent if and only if the look succeeds without a row. -/
  creates : handling.made.isSome ↔ handling.looked = .answered none
  created : handling.entry = errand.entry (.ok true) ↔
    ∃ identity, handling.made = some (.answered identity)
  present : handling.entry = errand.entry (.ok false) ↔
    ∃ identity, handling.looked = .answered (some identity)
  failed : handling.entry.level = .error ↔
    (¬ ∃ identity, handling.made = some (.answered identity)) ∧
      ¬ ∃ identity, handling.looked = .answered (some identity)
  /-- An entry of an error tells the failure. -/
  told : handling.entry.level = .error → ∃ failure, handling.entry = errand.entry (.error failure)

end Errand

/-! ## Bootstraps -/

variable {δ : Type}

def errands (bootstrap : Bootstrap) (account : Account) : List Errand :=
  bootstrap.groups.map (Errand.group bootstrap.groupTable) ++ [Errand.admin account]

/--
Errands that were run one after the other: what was exchanged, and the entries that were logged.
-/
structure Attended (errands : List Errand) (session later : Session δ) (events : List Event)
    (handlings : List Handling) : Prop where
  handled : List.Forall₂ Errand.Handled errands handlings
  exchanged : later.exchanges.reverse =
    session.exchanges.reverse ++ (List.zipWith Errand.exchanges errands handlings).flatten
  logged : events.filterMap Event.entry? = handlings.map Handling.entry

/-- Whatever came of the earlier errands, the later ones are run. -/
theorem Attended.append {earlier later : List Errand} {session middle last : Session δ}
    {before after : List Event} {first second : List Handling}
    (hfirst : Attended earlier session middle before first)
    (hsecond : Attended later middle last after second) :
    Attended (earlier ++ later) session last (before ++ after) (first ++ second) where
  handled := List.rel_append hfirst.handled hsecond.handled
  exchanged := by
    rw [hsecond.exchanged, hfirst.exchanged, List.zipWith_append hfirst.handled.length_eq,
      List.flatten_append, List.append_assoc]
  logged := by rw [List.filterMap_append, hfirst.logged, hsecond.logged, List.map_append]

variable (server : Server δ)

end Bootstrap

end SampleData
