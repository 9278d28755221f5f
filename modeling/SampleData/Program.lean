import SampleData.Command.Arguments
import SampleData.Listing
import SampleData.Run.Generation
import SampleData.Scaffold
import SampleData.Store.Database
import SampleData.Store.Memory

/-!
# The program

Carrying out a command on a project: what is printed, how the program ends, and the files
and the database session that it leaves.
-/

namespace SampleData

namespace Program

/-! ## Generation -/

/-- The settings of a configuration with the options of a command on top. -/
def settings (config : Config) (environment : Environment) (options : GenerateOptions) :
    Settings :=
  { count := options.count.getD config.count,
    exclude := config.exclude ++ options.exclude,
    authApp := config.authApp,
    bootstrap := config.bootstrap,
    admin := config.bootstrap.admin environment }

/-- The stream of a generation: the seed of its options starts it, if there is one. -/
def stream (options : GenerateOptions) (draws : Draws) : Draws :=
  match options.seed with
  | some seed => { draws with state := UInt64.ofNat seed }
  | none => draws

/-- What a generation prints, and its summary or why it failed. -/
structure Report where
  lines : List String
  result : Except Failure Summary

namespace Report

def failed (failure : Failure) : Report :=
  { lines := [], result := .error failure }

def ofRun {σ : Type} (before : List String) (result : Except Failure Summary) (run : Run σ) :
    Report :=
  { lines := before ++ run.lines, result }

/-- All that is printed: the summary or the failure comes last. -/
def printed (report : Report) : List String :=
  report.lines ++
    match report.result with
    | .ok summary => summary.lines
    | .error failure => ["Failed to generate dummy data: " ++ failure.message]

end Report

def dryRunLine : String :=
  "Dry run: records are kept in memory only"

def emptyLines (registry : Registry) : List String :=
  if registry.models.isEmpty then [Listing.nothingLine] else []

def fillMemory (now : Instant) (draws : Draws) (registry : Registry) (settings : Settings) :
    Except Failure Summary × Run MemoryStore :=
  Generation.runRegistry MemoryStore.store now registry settings { store := {}, draws }

def fillDatabase {δ : Type} (server : Server δ) (now : Instant) (draws : Draws)
    (registry : Registry) (settings : Settings) (session : Session δ) :
    Except Failure Summary × Run (Session δ) :=
  Generation.runRegistry (Database.store server) now registry settings
    { store := session, draws }

/-- Generate for a registry, in memory or in the database that the environment names. -/
def generateFor {δ : Type} (server : Server δ) (now : Instant) (draws : Draws)
    (environment : Environment) (registry : Registry) (settings : Settings) (dryRun : Bool) :
    StateM (Session δ) Report := fun session =>
  let before := emptyLines registry
  if dryRun then
    let (result, run) := fillMemory now draws registry settings
    (.ofRun (before ++ [dryRunLine]) result run, session)
  else
    match Database.connect server (.ofEnvironment environment) session with
    | (.error failure, session) => ({ lines := before, result := .error failure }, session)
    | (.ok _, session) =>
        let (result, run) := fillDatabase server now draws registry settings session
        (.ofRun before result run, run.store)

def generate {δ : Type} (server : Server δ) (now : Instant) (draws : Draws) (tree : FileTree)
    (options : GenerateOptions) : StateM (Session δ) Report :=
  match Config.load tree with
  | .error failure => pure (.failed failure)
  | .ok config =>
      match Project.registry tree config.manifest config.schemaDir with
      | .error failure => pure (.failed failure)
      | .ok registry =>
          let environment := Project.environment tree
          generateFor server now (stream options draws) environment registry
            (settings config environment options) options.dryRun

/-! ## Commands -/

structure Ending where
  lines : List String := []
  /-- The failure that ends the program, if one does. -/
  failure : Option Failure := none
  tree : FileTree

def Ending.ofResult (tree : FileTree) : Except Failure (List String) → Ending
  | .ok lines => { lines, tree }
  | .error failure => { failure := some failure, tree }

/-- Carry out a command.  A generation that fails says so in what it prints. -/
def execute {δ : Type} (server : Server δ) (now : Instant) (draws : Draws) (tree : FileTree) :
    Command → StateM (Session δ) Ending
  | .init =>
      let (result, after) := Scaffold.run tree
      pure (.ofResult after result)
  | .models exclude => pure (.ofResult tree (Listing.ofProject tree exclude))
  | .generate options => do
      let report ← generate server now draws tree options
      pure { lines := report.printed, tree }

def versionLine : String :=
  "surrealdummy 0.1.0"

def helpLines : List String :=
  ["Fill a SurrealDB database with dummy data",
   "",
   "Usage: surrealdummy [-v] init",
   "       surrealdummy [-v] models [--exclude <PATTERN>...]",
   "       surrealdummy [-v] generate [--exclude <PATTERN>...] [--count <N>] [--seed <N>] [--dry-run]"]

/-- The exit code of a command that failed, and of arguments that cannot be understood. -/
def exitCode (invocation : Invocation) (ending : Ending) : Nat :=
  match invocation with
  | .misuse => 2
  | _ => if ending.failure.isSome then 1 else 0

def run {δ : Type} (server : Server δ) (now : Instant) (draws : Draws) (tree : FileTree)
    (invocation : Invocation) : StateM (Session δ) Ending :=
  match invocation with
  | .run command => execute server now draws tree command
  | .version => pure { lines := [versionLine], tree }
  | .help => pure { lines := helpLines, tree }
  | .misuse => pure { tree }

end Program

end SampleData
