import Reconciliation.Failure

/-!
# Environment variables

* `Environment.get?` looks a variable up, `Environment.required` fails without it, and `Environment.number?` reads a
  number.
-/

namespace Reconciliation.Settings

open Number

/-- Variables with their values. -/
structure Environment where
  bindings : List (String × String)
  deriving Repr, DecidableEq

namespace Environment

def get? (env : Environment) (name : String) : Option String :=
  (env.bindings.find? (·.1 == name)).map (·.2)

/-- A variable that has to be set. -/
def required (env : Environment) (name : String) : Except Failure String :=
  match env.get? name with
  | some s => .ok s
  | none => .error (.configuration (name ++ " environment variable is required"))

/-- A number of at most `max`; nothing where the variable is not set or is no such number. -/
def number? (env : Environment) (name : String) (max : Nat) : Option Nat := do
  (Whole.ofText? max (← env.get? name)).toOption

end Environment
end Reconciliation.Settings
