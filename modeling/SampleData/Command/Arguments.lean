import SampleData.Command
import SampleData.Text.Digit
import SampleData.Text.Pieces

/-!
# Command-line arguments

Reading a command from arguments.  An option takes its value after an equals sign or as the
next argument; patterns to leave out may follow each other up to the next option.  No option
but that one may be given twice, and reading stops at the first argument that asks for help
or cannot be understood.
-/

namespace SampleData

inductive Invocation where
  | run (command : Command)
  | version
  | help
  | misuse
  deriving DecidableEq, Repr, Inhabited

namespace Arguments

/-! ## The shape of one argument -/

inductive Shape where
  | endOfOptions
  /-- An option by its long name, with the value after its equals sign. -/
  | long (name : List Char) (value : Option String)
  | letters (names : List Char)
  | plain (text : String)
  deriving DecidableEq, Repr, Inhabited

def shapeOf (argument : String) : Shape :=
  match argument.toList with
  | ['-', '-'] => .endOfOptions
  | '-' :: '-' :: rest =>
      match Text.cutAt '=' rest with
      | some (name, value) => .long name (some (String.ofList value))
      | none => .long rest none
  | ['-'] => .plain argument
  | '-' :: names => .letters names
  | _ => .plain argument

/-- One more than the largest number that an option takes. -/
def numberBound : Nat := UInt64.size

/-- A number, in front of which a plus may stand. -/
def number? (text : String) : Option Nat :=
  match text.toList with
  | '+' :: digits => Text.numeral? numberBound digits
  | digits => Text.numeral? numberBound digits

/-! ## Arguments of a command -/

inductive Verb where
  | init
  | models
  | generate
  deriving DecidableEq, Repr, Inhabited

def Verb.ofName? (name : String) : Option Verb :=
  if name = "init" then some .init
  else if name = "models" then some .models
  else if name = "generate" then some .generate
  else none

inductive Switch where
  | exclude
  | count
  | seed
  | dryRun
  deriving DecidableEq, Repr, Inhabited

def Switch.ofName? (name : List Char) : Option Switch :=
  if name = "exclude".toList then some .exclude
  else if name = "count".toList then some .count
  else if name = "seed".toList then some .seed
  else if name = "dry-run".toList then some .dryRun
  else none

def Verb.hasSwitch : Verb → Switch → Bool
  | init, _ => false
  | models, switch => switch == .exclude
  | generate, _ => true

/-- What is known while the arguments of a command are read. -/
structure Draft where
  options : GenerateOptions := {}
  verbose : Bool := false
  awaiting : Option Switch := none
  needsValue : Bool := false
  deriving DecidableEq, Repr, Inhabited

namespace Draft

/-- Give a value to an option, if it takes one and has none yet. -/
def give (draft : Draft) (switch : Switch) (text : String) : Option Draft :=
  let options := draft.options
  match switch with
  | .exclude =>
      some { draft with
        options := { options with exclude := options.exclude ++ [text] }, needsValue := false }
  | .count =>
      if options.count.isSome then none
      else (number? text).map fun count =>
        { draft with options := { options with count := some count }, awaiting := none,
                     needsValue := false }
  | .seed =>
      if options.seed.isSome then none
      else (number? text).map fun seed =>
        { draft with options := { options with seed := some seed }, awaiting := none,
                     needsValue := false }
  | .dryRun => none

/-- Begin an option, whose values may be attached or follow. -/
def start (draft : Draft) (switch : Switch) (attached : Option String) : Option Draft :=
  match switch, attached with
  | .dryRun, none =>
      if draft.options.dryRun then none
      else some { draft with
        options := { draft.options with dryRun := true }, awaiting := none }
  | .dryRun, some _ => none
  | switch, some text =>
      (draft.give switch text).map fun draft => { draft with awaiting := none }
  | switch, none => some { draft with awaiting := some switch, needsValue := true }

def beVerbose (draft : Draft) : Option Draft :=
  if draft.verbose then none else some { draft with verbose := true, awaiting := none }

def command (draft : Draft) : Verb → Command
  | .init => .init
  | .models => .models draft.options.exclude
  | .generate => .generate draft.options

def finish (draft : Draft) (verb : Verb) : Invocation :=
  if draft.needsValue then .misuse else .run (draft.command verb)

end Draft

/-- Options by letters: the draft after them, or what they ask for instead. -/
def readLetters (draft : Draft) : List Char → Except Invocation Draft
  | [] => .ok draft
  | 'v' :: rest =>
      match draft.beVerbose with
      | some draft => readLetters draft rest
      | none => .error .misuse
  | 'h' :: _ => .error .help
  | _ => .error .misuse

def readLong (verb : Verb) (draft : Draft) (name : List Char) (value : Option String) :
    Except Invocation Draft :=
  if name = "help".toList then .error (if value.isSome then .misuse else .help)
  else if name = "verbose".toList then
    match value, draft.beVerbose with
    | none, some draft => .ok draft
    | _, _ => .error .misuse
  else
    match Switch.ofName? name with
    | none => .error .misuse
    | some switch =>
        if verb.hasSwitch switch then
          match draft.start switch value with
          | some draft => .ok draft
          | none => .error .misuse
        else
          .error .misuse

def readOptions (verb : Verb) : Draft → List String → Invocation
  | draft, [] => draft.finish verb
  | draft, argument :: rest =>
      match shapeOf argument with
      | .endOfOptions => if rest.isEmpty then draft.finish verb else .misuse
      | .plain text =>
          match draft.awaiting with
          | none => .misuse
          | some switch =>
              match draft.give switch text with
              | some draft => readOptions verb draft rest
              | none => .misuse
      | .letters names =>
          if draft.needsValue then .misuse
          else
            match readLetters draft names with
            | .ok draft => readOptions verb draft rest
            | .error invocation => invocation
      | .long name value =>
          if draft.needsValue then .misuse
          else
            match readLong verb draft name value with
            | .ok draft => readOptions verb draft rest
            | .error invocation => invocation

/-! ## Arguments before a command -/

/--
Options by letters before the verb: whether more output is wanted, or what they ask for instead.
-/
def readFirstLetters (verbose : Bool) : List Char → Except Invocation Bool
  | [] => .ok verbose
  | 'v' :: rest => if verbose then .error .misuse else readFirstLetters true rest
  | 'V' :: _ => .error .version
  | 'h' :: _ => .error .help
  | _ => .error .misuse

def readFirstLong (verbose : Bool) (name : List Char) (value : Option String) :
    Except Invocation Bool :=
  if value.isSome then .error .misuse
  else if name = "verbose".toList then if verbose then .error .misuse else .ok true
  else if name = "version".toList then .error .version
  else if name = "help".toList then .error .help
  else .error .misuse

def readHelp : List String → Invocation
  | [] => .help
  | name :: rest =>
      if rest.isEmpty && ((Verb.ofName? name).isSome || name == "help") then .help else .misuse

def readFrom (verbose : Bool) : List String → Invocation
  | [] => .misuse
  | argument :: rest =>
      match Verb.ofName? argument with
      | some verb => readOptions verb {} rest
      | none =>
          if argument = "help" then readHelp rest
          else
            match shapeOf argument with
            | .endOfOptions => .misuse
            | .plain _ => .misuse
            | .letters names =>
                match readFirstLetters verbose names with
                | .ok verbose => readFrom verbose rest
                | .error invocation => invocation
            | .long name value =>
                match readFirstLong verbose name value with
                | .ok verbose => readFrom verbose rest
                | .error invocation => invocation

def read (arguments : List String) : Invocation :=
  readFrom false arguments

end Arguments

end SampleData
