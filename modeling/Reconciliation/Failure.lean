import Reconciliation.Json.Fault

/-!
# Failures

What a call or an operation can fail with, sorted by where it comes from: a rule of the domain, a system that
this one talks to, or its own surroundings.

* `Failure.message` words a failure, with its context in parentheses.
* `Failure.isRetryable` says whether the same call may succeed later.
-/

namespace Reconciliation

/-- The kinds of failures. -/
inductive Failure.Kind where
  /-- An entity with this id does not exist. -/
  | notFound (entity id : String)
  /-- A request that can not be served as it is. -/
  | validation (message : String)
  /-- The payment gateway failed or refused. -/
  | gateway (provider message : String) (retryable : Bool)
  /-- The billing platform failed or refused. -/
  | platform (message : String) (retryable : Bool)
  /-- A system asks for fewer calls. -/
  | rateLimit (service : String) (retryAfter : Option Nat)
  | configuration (message : String)
  | persistence (message : String) (retryable : Bool)
  | serialization (message : String)
  deriving Repr, DecidableEq

structure Failure where
  kind : Failure.Kind
  context : Option String
  deriving Repr, DecidableEq

namespace Failure

def Kind.message : Kind → String
  | .notFound entity id => entity ++ " '" ++ id ++ "' not found"
  | .validation m => "Invalid request: " ++ m
  | .gateway provider m _ => provider ++ " error: " ++ m
  | .platform m _ => "Billing platform error: " ++ m
  | .rateLimit service _ => service ++ " rate limit exceeded"
  | .configuration m => "Configuration error: " ++ m
  | .persistence m _ => "Persistence error: " ++ m
  | .serialization m => "Serialization error: " ++ m

/-- The wording, with the context behind it. -/
def message (f : Failure) : String :=
  match f.context with
  | none => f.kind.message
  | some c => f.kind.message ++ " (" ++ c ++ ")"

def isRetryable (f : Failure) : Bool :=
  match f.kind with
  | .gateway _ _ retryable | .platform _ retryable | .persistence _ retryable => retryable
  | .rateLimit _ _ => true
  | _ => false

def isNotFound (f : Failure) : Bool :=
  match f.kind with
  | .notFound _ _ => true
  | _ => false

def isPersistence (f : Failure) : Bool :=
  match f.kind with
  | .persistence _ _ => true
  | _ => false

/-! ### Building failures -/

/-- A failure without context. -/
def ofKind (k : Kind) : Failure := ⟨k, none⟩

def notFound (entity id : String) : Failure := ofKind (.notFound entity id)

def validation (message : String) : Failure := ofKind (.validation message)

def configuration (message : String) : Failure := ofKind (.configuration message)

/-- A failure to store or to read that will not pass by itself. -/
def persistence (message : String) : Failure := ofKind (.persistence message false)

/-- A refusal of the platform. -/
def platform (message : String) : Failure := ofKind (.platform message false)

/-- A text or value that could not be read. -/
def serialization (message : String) : Failure := ofKind (.serialization message)

end Failure
end Reconciliation
