import Reconciliation.Settings.Environment
import Reconciliation.Text.Blank
import Reconciliation.Text.Quoted

/-!
# Settings of the service

* `Service.Config.ofEnvironment` reads the settings from environment variables and checks them.
* `Service.Config.flaw?` is the first thing that stands against settings; `Flaw.message` words it, `Flaw.causes` adds
  what is behind it.
-/

namespace Reconciliation.Service

open Number Settings Text

structure Config where
  host : String
  port : Nat
  environment : String
  databaseUrl : String
  maxConnections : Nat
  /-- The file with the tenants. -/
  tenantsPath : String
  /-- Whether lines of the log are JSON. -/
  jsonLog : Bool
  deriving Repr, DecidableEq

namespace Config

inductive Flaw where
  | notSet (name : String)
  | notNumber (name : String) (why : Whole.Flaw)
  /-- Ports below `lowestPort` are not for services. -/
  | portTooLow (port : Nat)
  | unknownEnvironment (name : String)
  | noDatabaseUrl
  | noConnections
  | noTenantsPath
  deriving Repr, DecidableEq

def lowestPort : Nat := 1024

def environments : List String := ["development", "staging", "production"]

def Flaw.message : Flaw → String
  | .notSet name => name ++ " not set"
  | .notNumber name _ => name ++ " must be a valid number"
  | .portTooLow port =>
    "Port must be at least " ++ digitsText lowestPort ++ ", got " ++ digitsText port
  | .unknownEnvironment name => "Environment must be one of: " ++ quotedList environments ++ ", got " ++ name
  | .noDatabaseUrl => "DATABASE_URL cannot be empty"
  | .noConnections => "DATABASE_MAX_CONNECTIONS must be greater than 0"
  | .noTenantsPath => "TENANT_CONFIG_PATH cannot be empty"

/-- The wording with what is behind it. -/
def Flaw.causes : Flaw → List String
  | .notSet name => [(Flaw.notSet name).message, "environment variable not found"]
  | .notNumber name why => [(Flaw.notNumber name why).message, why.message]
  | flaw => [flaw.message]

/-! ### Checking -/

/-- The first thing that stands against settings. -/
def flaw? (c : Config) : Option Flaw :=
  if c.port < lowestPort then some (.portTooLow c.port)
  else if c.environment ∉ environments then some (.unknownEnvironment c.environment)
  else if allBlank c.databaseUrl then some .noDatabaseUrl
  else if c.maxConnections = 0 then some .noConnections
  else if allBlank c.tenantsPath then some .noTenantsPath
  else none

def isProduction (c : Config) : Bool := c.environment = "production"

/-! ### Reading -/

/-- A number of at most `max`; `default` stands for a variable that is not set. -/
def number (env : Environment) (name : String) (max default : Nat) : Except Flaw Nat :=
  match env.get? name with
  | none => .ok default
  | some s => (Whole.ofText? max s).mapError (.notNumber name)

def required (env : Environment) (name : String) : Except Flaw String :=
  match env.get? name with
  | some s => .ok s
  | none => .error (.notSet name)

/-- The settings that variables give, before they are checked. -/
def read (env : Environment) : Except Flaw Config := do
  let port ← number env "PORT" maxUInt16 8080
  let databaseUrl ← required env "DATABASE_URL"
  let maxConnections ← number env "DATABASE_MAX_CONNECTIONS" maxUInt32 10
  let tenantsPath ← required env "TENANT_CONFIG_PATH"
  pure {
    host := (env.get? "HOST").getD "0.0.0.0"
    port
    environment := (env.get? "ENVIRONMENT").getD "development"
    databaseUrl
    maxConnections
    tenantsPath
    jsonLog := (env.get? "LOG_FORMAT").any (sameLetters "json") }

/-- The settings that variables give. -/
def ofEnvironment (env : Environment) : Except Flaw Config := do
  let c ← read env
  match c.flaw? with
  | none => pure c
  | some flaw => throw flaw

end Config
end Reconciliation.Service
