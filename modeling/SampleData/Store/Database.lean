import SampleData.Environment
import SampleData.Store
import SampleData.Store.Statement

/-!
# Stores in a database

A store that sends statements to a server.  What was sent and what was replied is kept with
the state of the server, so that every fact about a run can be read off its session.
-/

namespace SampleData

/-! ## Servers and sessions -/

inductive Request where
  | connect (address : String)
  | signIn (user password : String)
  | use (space name : String)
  | query (statement : Statement)
  deriving DecidableEq, Repr, Inhabited

inductive Reply where
  | refused (text : String)
  /-- The request succeeds, but its result is a failure. -/
  | rejected (text : String)
  /-- The request succeeds, with the identity in the first row of its result, if there is a row. -/
  | answered (identity : Option String)
  deriving DecidableEq, Repr, Inhabited

structure Server (δ : Type) where
  reply : Request → StateM δ Reply

/-- A server's state with what was sent to it and what it replied, the latest first. -/
structure Session (δ : Type) where
  server : δ
  exchanges : List (Request × Reply) := []

namespace Session

def requests {δ : Type} (session : Session δ) : List Request :=
  (session.exchanges.map Prod.fst).reverse

end Session

structure Connection where
  host : String := "http://localhost:8000"
  space : String := "db"
  name : String := "test"
  user : String := "root"
  password : String := "root"
  deriving DecidableEq, Repr, Inhabited

def Connection.ofEnvironment (environment : Environment) : Connection :=
  let defaults : Connection := {}
  { host := (environment.get? "PUBLIC_DATABASE_HOST").getD defaults.host,
    space := (environment.get? "PUBLIC_DATABASE_NAMESPACE").getD defaults.space,
    name := (environment.get? "PUBLIC_DATABASE_NAME").getD defaults.name,
    user := (environment.get? "DATABASE_USER").getD defaults.user,
    password := (environment.get? "DATABASE_PASSWORD").getD defaults.password }

namespace Database

variable {δ : Type}

def send (server : Server δ) (request : Request) : StateM (Session δ) Reply := fun session =>
  let (reply, state) := server.reply request session.server
  (reply, { server := state, exchanges := (request, reply) :: session.exchanges })

/-- Send a request whose failure of either sort is a failure in a task. -/
def attempt (server : Server δ) (task : Task) (request : Request) :
    StateM (Session δ) (Except Failure Unit) := do
  match ← send server request with
  | .refused text => pure (.error (.during task (.database text)))
  | .rejected text => pure (.error (.during task (.database text)))
  | .answered _ => pure (.ok ())

def connect (server : Server δ) (connection : Connection) :
    StateM (Session δ) (Except Failure Unit) := do
  match ← attempt server (.connecting connection.host) (.connect connection.host) with
  | .error failure => pure (.error failure)
  | .ok _ =>
      match ← attempt server .signingIn (.signIn connection.user connection.password) with
      | .error failure => pure (.error failure)
      | .ok _ =>
          attempt server (.selecting connection.space connection.name)
            (.use connection.space connection.name)

/-! ## Operations -/

def firstIdentity (server : Server δ) (statement : Statement) :
    StateM (Session δ) (Except Failure (Option String)) := do
  match ← send server (.query statement) with
  | .refused text => pure (.error (.database text))
  | .rejected text => pure (.error (.database text))
  | .answered identity => pure (.ok identity)

/-- Carry out a statement; a rejected one fails in a task. -/
def execute (server : Server δ) (task : Option Task) (statement : Statement) :
    StateM (Session δ) (Except Failure Unit) := do
  match ← send server (.query statement) with
  | .refused text => pure (.error (.database text))
  | .rejected text =>
      match task with
      | some task => pure (.error (.during task (.database text)))
      | none => pure (.error (.database text))
  | .answered _ => pure (.ok ())

/-- Create something unless a look for it finds a row. -/
def ensure (server : Server δ) (look create : Statement) (task : Task) :
    StateM (Session δ) (Except Failure Bool) := do
  match ← firstIdentity server look with
  | .error failure => pure (.error failure)
  | .ok (some _) => pure (.ok false)
  | .ok none =>
      match ← execute server (some task) create with
      | .error failure => pure (.error failure)
      | .ok _ => pure (.ok true)

def ensureGroup (server : Server δ) (table name : String) :
    StateM (Session δ) (Except Failure Bool) :=
  ensure server (.findGroup table name) (.createGroup table name) (.creatingGroup name)

def ensureAdmin (server : Server δ) (account : Account) :
    StateM (Session δ) (Except Failure Bool) :=
  ensure server (.findAdmin account.table) (.createAdmin account)
    (.creatingAdmin account.username)

/-- Create a record; nothing is sent when a value cannot be written. -/
def save (server : Server δ) (record : Record) (values : Values) :
    StateM (Session δ) (Except Failure Unit) :=
  match Statement.createRecord record values with
  | .error failure => pure (.error failure)
  | .ok statement => execute server none statement

def pick (server : Server δ) (table : String) :
    StateM (Session δ) (Except Failure (Option Record)) := do
  match ← firstIdentity server (.findAny table) with
  | .error failure => pure (.error failure)
  | .ok none => pure (.ok none)
  | .ok (some identity) => pure ((Record.read identity).map some)

def relate (server : Server δ) (record : Record) (field : String) (targets : List Record) :
    StateM (Session δ) (Except Failure Unit) :=
  execute server none (.setLinks record field targets)

/-- The operations of a store in a database, which checks models itself and draws nothing. -/
def store (server : Server δ) : Store (Session δ) where
  ensureGroup := ensureGroup server
  ensureAdmin := ensureAdmin server
  save := fun record _ values => save server record values
  pick := fun table draws session =>
    let (answer, session) := pick server table session
    (answer, draws, session)
  relate := relate server

end Database

end SampleData
