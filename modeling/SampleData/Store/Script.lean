import SampleData.Store.Database

/-!
# Scripted stores and servers

A server that replies by rules, and a store some of whose calls fail: for rehearsing what a
run does when things go wrong.
-/

namespace SampleData

namespace Script

/-! ## Servers -/

structure Rule where
  contains : Option String := none
  bound : Option Parameter := none
  times : Option Nat := none
  reply : Reply
  deriving DecidableEq, Repr, Inhabited

/--
A script: failures on the way to the database, and rules for statements with the times each was
used.
-/
structure Lines where
  connectError : Option String := none
  signInError : Option String := none
  useError : Option String := none
  rules : List (Rule × Nat) := []
  deriving DecidableEq, Repr, Inhabited

def Rule.applies (rule : Rule) (used : Nat) (statement : Statement) : Bool :=
  rule.contains.all (Text.containsString statement.text) &&
    rule.bound.all (fun value => statement.bindings.any fun binding => binding.2 == value) &&
    rule.times.all (used < ·)

/-- The reply of the first rule that applies, and the rules with that one used once more. -/
def answer (statement : Statement) : List (Rule × Nat) → Reply × List (Rule × Nat)
  | [] => (.answered none, [])
  | (rule, used) :: rest =>
      if rule.applies used statement then
        (rule.reply, (rule, used + 1) :: rest)
      else
        let (reply, rest) := answer statement rest
        (reply, (rule, used) :: rest)

def refusal (text : Option String) : Reply :=
  (text.map Reply.refused).getD (.answered none)

def server : Server Lines where
  reply := fun request lines =>
    match request with
    | .connect _ => (refusal lines.connectError, lines)
    | .signIn _ _ => (refusal lines.signInError, lines)
    | .use _ _ => (refusal lines.useError, lines)
    | .query statement =>
        let (reply, rules) := answer statement lines.rules
        (reply, { lines with rules })

/-! ## Stores -/

inductive Operation where
  | ensureGroup
  | ensureAdmin
  | save
  | pick
  | relate
  deriving DecidableEq, Repr, Inhabited

/-- A failure that takes the place of calls of an operation: of one by its number, or of all. -/
structure Fault where
  operation : Operation
  number : Option Nat := none
  text : String
  deriving DecidableEq, Repr, Inhabited

structure Counted (σ : Type) where
  inner : σ
  calls : List Operation := []

def planned? (faults : List Fault) (operation : Operation) (calls : List Operation) :
    Option Failure :=
  (faults.find? fun fault =>
    fault.operation == operation && fault.number.all (· == calls.count operation)).map
      fun fault => .database fault.text

/-- A call that fails as planned, or else reaches the store. -/
def guarded {σ α : Type} (faults : List Fault) (operation : Operation)
    (call : StateM σ (Except Failure α)) : StateM (Counted σ) (Except Failure α) := fun counted =>
  let calls := operation :: counted.calls
  match planned? faults operation counted.calls with
  | some failure => (.error failure, { counted with calls })
  | none =>
      let (answer, inner) := call counted.inner
      (answer, { inner, calls })

def faulty {σ : Type} (faults : List Fault) (store : Store σ) : Store (Counted σ) where
  ensureGroup := fun table name => guarded faults .ensureGroup (store.ensureGroup table name)
  ensureAdmin := fun account => guarded faults .ensureAdmin (store.ensureAdmin account)
  save := fun record model values => guarded faults .save (store.save record model values)
  pick := fun table draws counted =>
    let calls := .pick :: counted.calls
    match planned? faults .pick counted.calls with
    | some failure => (.error failure, draws, { counted with calls })
    | none =>
        let (answer, draws, inner) := store.pick table draws counted.inner
        (answer, draws, { inner, calls })
  relate := fun record field targets => guarded faults .relate (store.relate record field targets)

end Script

end SampleData
