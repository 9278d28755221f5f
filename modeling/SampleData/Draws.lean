/-!
# Draws

A stream of 64-bit numbers that a seed determines, and what is sampled from it: a number
below a bound, a coin, an element of a list, several elements of a list.  A stream may
begin with chosen numbers, and may carry chosen texts that are used in place of made-up ones.
-/

namespace SampleData

inductive TextKind where
  | email
  | suffix
  | word
  | name
  | phone
  | sentence
  | paragraph
  deriving DecidableEq, Repr, Inhabited

/-- A stream of draws: the generator's state, and what was chosen beforehand. -/
structure Draws where
  state : UInt64
  /-- Numbers that are drawn before the generator's own. -/
  queued : List UInt64 := []
  /-- Texts that are used, each for its kind, before any is made up. -/
  texts : List (TextKind × String) := []
  deriving DecidableEq, Repr, Inhabited

abbrev Sampler (α : Type) := StateM Draws α

namespace Draws

def ofSeed (seed : UInt64) : Draws :=
  { state := seed }

def stride : UInt64 := 0x9E3779B97F4A7C15

/-- The number that a state stands for: two rounds of shift and multiplication, and a last shift. -/
def scramble (state : UInt64) : UInt64 :=
  let first := (state ^^^ (state >>> 30)) * 0xBF58476D1CE4E5B9
  let second := (first ^^^ (first >>> 27)) * 0x94D049BB133111EB
  second ^^^ (second >>> 31)

def next : Sampler UInt64 := fun draws =>
  match draws.queued with
  | number :: rest => (number, { draws with queued := rest })
  | [] =>
      let state := draws.state + stride
      (scramble state, { draws with state })

def takeText (kind : TextKind) :
    List (TextKind × String) → Option (String × List (TextKind × String))
  | [] => none
  | (k, text) :: rest =>
      if k = kind then
        some (text, rest)
      else
        (takeText kind rest).map fun (found, others) => (found, (k, text) :: others)

def textOr (kind : TextKind) (makeUp : Sampler String) : Sampler String := fun draws =>
  match takeText kind draws.texts with
  | some (text, rest) => (text, { draws with texts := rest })
  | none => makeUp draws

/-- How many numbers a single draw tells apart. -/
def wordSize : Nat := UInt64.size

/--
A number below a bound.  One draw serves every bound that a single draw can tell apart;
a larger bound takes two, the first being the higher half.
-/
def below (bound : Nat) : Sampler Nat := do
  if bound ≤ wordSize then
    let number ← next
    pure (number.toNat % bound)
  else
    let high ← next
    let low ← next
    pure ((high.toNat * wordSize + low.toNat) % bound)

/-- A number from `low` to `high`, both included. -/
def between (low high : Int) : Sampler Int := do
  let offset ← below (high - low + 1).toNat
  pure (low + offset)

/-- A coin: true for the lower half of the numbers. -/
def coin : Sampler Bool := do
  let number ← next
  pure (number < 0x8000000000000000)

def choose {α : Type} (pool : List α) : Sampler (Option α) :=
  match pool with
  | [] => pure none
  | first :: rest => do
      let index ← below (rest.length + 1)
      pure ((first :: rest)[index]?)

/--
Elements at so many different places of a list, in the order they are drawn.  The element
at the drawn place comes out, and the first element of the list takes its place.
-/
def chooseMany {α : Type} : Nat → List α → Sampler (List α)
  | 0, _ => pure []
  | _ + 1, [] => pure []
  | amount + 1, first :: rest => do
      let index ← below (rest.length + 1)
      match index with
      | 0 => do
          let others ← chooseMany amount rest
          pure (first :: others)
      | place + 1 => do
          let others ← chooseMany amount (rest.set place first)
          pure (rest[place]?.getD first :: others)

def repeated {α : Type} : Nat → Sampler α → Sampler (List α)
  | 0, _ => pure []
  | count + 1, sampler => do
      let first ← sampler
      let rest ← repeated count sampler
      pure (first :: rest)

theorem length_repeated {α : Type} (count : Nat) (sampler : Sampler α) (draws : Draws) :
    ((repeated count sampler).run draws).1.length = count := by
  induction count generalizing draws with
  | zero => rfl
  | succ count ih => exact congrArg (· + 1) (ih (sampler.run draws).2)

end Draws

end SampleData
