import Reconciliation.Failure

/-!
# Faults of the database

* `Database.Signal` is what the database and the connection to it report.
* `Database.Fault` sorts it by what it means here; `Fault.message` words it and `Fault.failure` hands it on.
-/

namespace Reconciliation.Database

/-- What the database, or the connection to it, reports. -/
inductive Signal where
  /-- A query found no row where one was expected. -/
  | noRow
  | poolTimedOut
  | poolClosed
  | poolWorkerCrashed
  | configuration (message : String)
  /-- The database refused a statement. -/
  | refused (message : String) (code constraint : Option String)
  | connection (message : String)
  | encryption (message : String)
  | protocol (message : String)
  | unknownType (name : String)
  | unknownColumn (name : String)
  | column (name message : String)
  | decode (message : String)
  | encode (message : String)
  deriving Repr, DecidableEq

inductive Fault.Kind where
  | poolExhausted
  | connectionTimeout
  | notFound (entity id : String)
  /-- A row like this exists. -/
  | duplicate (constraint : String)
  /-- A row that this one refers to does not exist. -/
  | danglingReference (constraint : String)
  | query (message : String)
  | connection (message : String)
  /-- A stored value means nothing here. -/
  | decode (column message : String)
  | migration (message : String)
  | configuration (message : String)
  | unknown (message : String)
  deriving Repr, DecidableEq

/-- A fault, with what it happened to. -/
structure Fault where
  kind : Fault.Kind
  context : Option String
  deriving Repr, DecidableEq

/-- The wording of signals that are not sorted further. -/
def Signal.message : Signal → String
  | .noRow => "no rows returned by a query that expected to return at least one row"
  | .poolTimedOut => "pool timed out while waiting for an open connection"
  | .poolClosed => "attempted to acquire a connection on a closed pool"
  | .poolWorkerCrashed => "attempted to communicate with a crashed background worker"
  | .configuration m => "error with configuration: " ++ m
  | .refused m _ _ => "error returned from database: " ++ m
  | .connection m => "error communicating with database: " ++ m
  | .encryption m => "error occurred while attempting to establish a TLS connection: " ++ m
  | .protocol m => "encountered unexpected or invalid data: " ++ m
  | .unknownType name => "type named " ++ name ++ " not found"
  | .unknownColumn name => "no column found for name: " ++ name
  | .column name m => "error occurred while decoding column " ++ name ++ ": " ++ m
  | .decode m => "error occurred while decoding: " ++ m
  | .encode m => "error occurred while encoding a value: " ++ m

namespace Fault

/-- The code for a row that exists already. -/
def duplicateCode : String := "23505"

/-- The code for a row that refers to nothing. -/
def danglingCode : String := "23503"

def Kind.ofSignal : Signal → Kind
  | .noRow => .notFound "Record" "unknown"
  | .poolTimedOut => .poolExhausted
  | .poolClosed => .connection "Connection pool is closed"
  | .configuration m => .configuration m
  | .refused m code constraint =>
    if code = some duplicateCode then .duplicate (constraint.getD "unknown")
    else if code = some danglingCode then .danglingReference (constraint.getD "unknown")
    else .query m
  | .connection m => .connection m
  | .column name m => .decode name m
  | s => .unknown s.message

def ofSignal (s : Signal) : Fault := ⟨.ofSignal s, none⟩

def Kind.message : Kind → String
  | .poolExhausted => "Database connection pool exhausted"
  | .connectionTimeout => "Database connection timed out"
  | .notFound entity id => entity ++ " with ID '" ++ id ++ "' not found"
  | .duplicate constraint => "Duplicate record violates " ++ constraint
  | .danglingReference constraint => "Referenced record missing for " ++ constraint
  | .query m => "Database query failed: " ++ m
  | .connection m => "Database connection error: " ++ m
  | .decode column m => "Cannot decode column '" ++ column ++ "': " ++ m
  | .migration m => "Migration failed: " ++ m
  | .configuration m => "Database configuration error: " ++ m
  | .unknown m => "Unknown database error: " ++ m

/-- The wording, with the context behind it. -/
def message (f : Fault) : String :=
  match f.context with
  | none => f.kind.message
  | some c => f.kind.message ++ " (" ++ c ++ ")"

/-- Whether the same may work later. -/
def isRetryable (f : Fault) : Bool :=
  match f.kind with
  | .poolExhausted | .connectionTimeout | .connection _ => true
  | _ => false

def isNotFound (f : Fault) : Bool :=
  match f.kind with
  | .notFound _ _ => true
  | _ => false

def isConstraintViolation (f : Fault) : Bool :=
  match f.kind with
  | .duplicate _ | .danglingReference _ => true
  | _ => false

/-- The failure that a fault is outside the database: a row that is not there is named by the context. -/
def failure (f : Fault) : Failure :=
  if f.isNotFound then .notFound "Record" (f.context.getD "unknown")
  else .ofKind (.persistence f.message f.isRetryable)

end Fault
end Reconciliation.Database
