import Reconciliation.Failure
import Reconciliation.Settings.Environment

/-!
# Settings of the gateway client

* `Gateway.Config.ofEnvironment` reads them from environment variables. A number that can not be read counts as not
  given.
-/

namespace Reconciliation.Gateway

open Number Settings

structure Config where
  apiKey : String
  /-- The address of the gateway with the version of its interface. -/
  baseUrl : String
  timeoutSeconds : Nat
  /-- How often a request is sent again. -/
  maxRetries : Nat
  deriving Repr, DecidableEq

namespace Config

def default : Config := ⟨"", "https://checkout-test.adyen.com/v71", 30, 3⟩

/-- No request is sent again more often. -/
def retriesLimit : Nat := 10

/-- The settings that variables give. -/
def ofEnvironment (env : Environment) : Except Failure Config := do
  let apiKey ← env.required "ADYEN_API_KEY"
  pure {
    apiKey
    baseUrl := (env.get? "ADYEN_BASE_URL").getD default.baseUrl
    timeoutSeconds := (env.number? "ADYEN_TIMEOUT_SECS" maxUInt64).getD default.timeoutSeconds
    maxRetries := min ((env.number? "ADYEN_MAX_RETRIES" maxUInt32).getD default.maxRetries) retriesLimit }

end Config
end Reconciliation.Gateway
