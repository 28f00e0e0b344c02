import Mathlib.Data.List.Basic
import Reconciliation.Platform.Client
import Reconciliation.Proofs.Addresses

/-!
# What the platform's answers are taken for

The status of an answer decides first: one that is missing is missing, one that is no success is a refusal. But a success
counts only if its body can be read, whether the value in it is wanted or not. A change that the platform has made is
therefore taken for one that it refused, if the platform says so in no JSON text.

* `Judged` lists what an answer can be taken for, and `send_judged` says that nothing else happens.
* `change_accepted_iff` says what becomes of a change of a status, for every answer and for none.
* `accepted_change_refused` is a change that the platform has made and that ends with a failure.
-/

namespace Reconciliation.Platform.Client

open Json Http Text

/-- What comes back for a call. Nothing does where no request can be built. -/
def answerTo (config : Config) (path : String) (replies : List Reply) : Reply :=
  match address? [config.apiKey, config.apiSecret] (config.baseUrl ++ path) with
  | some _ => replies.headD .lost
  | none => .lost

/-- What an answer is taken for. -/
inductive Judged {α : Type} (d : Decoder α) (path : String) : Reply → Except Failure (Option α) → Prop where
  | unanswered (why : String) : Judged d path .lost (.error (unanswered path why))
  | missing (body : Utf8.Bytes) : Judged d path (.answer 404 body) (.error (.notFound "BillingResource" path))
  | refused {status : Nat} (body : Utf8.Bytes) (found : status ≠ 404) (fails : isSuccess status = false) :
      Judged d path (.answer status body)
        (.error (.ofKind (.platform ("HTTP " ++ statusText status ++ ": " ++ bodyText body) (isServerError status))))
  | empty (body : Utf8.Bytes) : Judged d path (.answer 204 body) (.ok none)
  | read {status : Nat} {body : Utf8.Bytes} {a : α} (succeeds : isSuccess status = true) (content : status ≠ 204)
      (reads : d.parse body = .ok a) : Judged d path (.answer status body) (.ok (some a))
  | unread {status : Nat} {body : Utf8.Bytes} {fault : Fault} (succeeds : isSuccess status = true)
      (content : status ≠ 204) (fails : d.parse body = .error fault) :
      Judged d path (.answer status body) (.error (.platform ("invalid response from " ++ path ++ ": " ++ notDecoded)))

theorem judge_judged {α : Type} (d : Decoder α) (url path : String) (reply : Reply) :
    Judged d path reply (judge d url path reply) := by
  cases reply with
  | lost => exact .unanswered _
  | answer status body =>
    by_cases missing : status = 404
    · subst missing
      exact .missing body
    · rw [judge, if_neg missing]
      cases succeeds : isSuccess status with
      | false => exact .refused body missing succeeds
      | true =>
        by_cases empty : status = 204
        · subst empty
          exact .empty body
        · rw [Bool.not_true, if_neg Bool.false_ne_true, if_neg empty]
          cases reads : d.parse body with
          | ok a => exact .read succeeds empty reads
          | error fault => exact .unread succeeds empty reads

theorem send_judged {α : Type} (d : Decoder α) (config : Config) (method : Method) (path : String) (tenant : Ident)
    (body : Option Value) (replies : List Reply) :
    Judged d path (answerTo config path replies) (send d config method path tenant body replies).result := by
  unfold send answerTo
  cases address? [config.apiKey, config.apiSecret] (config.baseUrl ++ path) with
  | none => exact .unanswered _
  | some url => exact judge_judged d _ path _

theorem ne_404_of_isSuccess {status : Nat} (h : isSuccess status = true) : status ≠ 404 := by
  rintro rfl
  cases h

theorem isServerError_of_isSuccess {status : Nat} (h : isSuccess status = true) : isServerError status = false := by
  simp only [isSuccess, isServerError, Bool.and_eq_true, decide_eq_true_eq, Bool.and_eq_false_iff,
    decide_eq_false_iff_not] at h ⊢
  omega

namespace Judged

variable {α : Type} {d : Decoder α} {path : String} {reply : Reply} {result : Except Failure (Option α)}

theorem ok_iff (h : Judged d path reply result) : (∃ x, result = .ok x) ↔
    ∃ status body, reply = .answer status body ∧ isSuccess status = true ∧
      (status = 204 ∨ ∃ a, d.parse body = .ok a) := by
  cases h with
  | unanswered => simp
  | missing => simp [show isSuccess 404 = false from rfl]
  | refused _ _ fails => simp [fails]
  | empty body => exact iff_of_true ⟨_, rfl⟩ ⟨204, body, rfl, rfl, .inl rfl⟩
  | read succeeds _ reads => exact iff_of_true ⟨_, rfl⟩ ⟨_, _, rfl, succeeds, .inr ⟨_, reads⟩⟩
  | unread _ content fails => simp [content, fails]

theorem missing_iff (h : Judged d path reply result) :
    (∃ f, result = .error f ∧ f.isNotFound = true) ↔ ∃ body, reply = .answer 404 body := by
  cases h with
  | unanswered => simp [Client.unanswered, Failure.isNotFound, Failure.ofKind]
  | missing body => exact iff_of_true ⟨_, rfl, rfl⟩ ⟨body, rfl⟩
  | refused _ found => simp [found, Failure.isNotFound, Failure.ofKind]
  | empty => simp
  | read succeeds => simp [ne_404_of_isSuccess succeeds]
  | unread succeeds => simp [ne_404_of_isSuccess succeeds, Failure.isNotFound, Failure.platform, Failure.ofKind]

theorem failure (h : Judged d path reply result) {f : Failure} (failed : result = .error f)
    (found : f.isNotFound = false) : ∃ message retryable, f = .ofKind (.platform message retryable) ∧
      (retryable = true ↔ reply = .lost ∨ ∃ status body, reply = .answer status body ∧ isServerError status = true) := by
  cases h with
  | unanswered =>
    cases failed
    exact ⟨_, true, rfl, by simp⟩
  | missing =>
    cases failed
    cases found
  | refused =>
    cases failed
    exact ⟨_, _, rfl, by simp⟩
  | unread succeeds =>
    cases failed
    exact ⟨_, false, rfl, by simp [isServerError_of_isSuccess succeeds]⟩
  | empty | read => cases failed

end Judged

/-! ### Changes of a status -/

/-- Where a change of a status is asked for. -/
def changePath (change : StatusChange) : String :=
  "/payments/" ++ change.payment.text ++ "/transactions/" ++ change.transaction.text

theorem changePath_slash (change : StatusChange) : ∃ more, changePath change = "/" ++ more :=
  ⟨"payments/" ++ change.payment.text ++ "/transactions/" ++ change.transaction.text, by
    rw [changePath, ← String.append_assoc, ← String.append_assoc, ← String.append_assoc]
    rfl⟩

section Change

variable (config : Config) (change : StatusChange) (tenant : Ident) (replies : List Reply)

/-- What the request for a change is taken for; a value in the answer counts for nothing. -/
theorem updateTransaction_judged : ∃ result, Judged .any (changePath change) (answerTo config (changePath change) replies) result ∧
    ((updateTransaction config change tenant replies).result = .ok () ↔ ∃ x, result = .ok x) ∧
    ∀ f, (updateTransaction config change tenant replies).result = .error f ↔ result = .error f := by
  refine ⟨_, send_judged .any config .put (changePath change) tenant (some change.json) replies, ?_⟩
  have dropped : (updateTransaction config change tenant replies).result =
      (send .any config .put (changePath change) tenant (some change.json) replies).result.map fun _ => () := rfl
  rw [dropped]
  cases (send .any config .put (changePath change) tenant (some change.json) replies).result with
  | ok x => exact ⟨iff_of_true rfl ⟨x, rfl⟩, fun f => iff_of_false nofun nofun⟩
  | error f => exact ⟨iff_of_false nofun nofun, fun _ => ⟨fun h => by cases h; rfl, fun h => by cases h; rfl⟩⟩

theorem updateTransaction_sent (serves : Serves config.baseUrl) (apiKey : headerValid config.apiKey = true)
    (apiSecret : headerValid config.apiSecret = true) :
    answerTo config (changePath change) replies = replies.headD .lost ∧
      ∃ r, (updateTransaction config change tenant replies).sent = [r] ∧ r.method = .put ∧ r.body = some change.json := by
  obtain ⟨more, path⟩ := changePath_slash change
  obtain ⟨url, -, address⟩ := serves.address?_eq more [config.apiKey, config.apiSecret] (by simp [apiKey, apiSecret])
  rw [← path] at address
  refine ⟨by rw [answerTo, address], request config .put url tenant (some change.json), ?_, rfl, rfl⟩
  change (send .any config .put (changePath change) tenant (some change.json) replies).sent = _
  rw [send, address]

end Change

/-- A change is accepted exactly if the status of the answer is a success and there is no content or one that is JSON. It is
about something missing exactly if the status says so. All else is a failure of the platform, which may pass exactly if
there was no answer or the server failed. -/
theorem change_accepted_iff (config : Config) (change : StatusChange) (tenant : Ident) (replies : List Reply) :
    let x := updateTransaction config change tenant replies
    let reply := answerTo config (changePath change) replies
    (x.result = .ok () ↔ ∃ status body, reply = .answer status body ∧ isSuccess status = true ∧
      (status = 204 ∨ ∃ v, Decoder.any.parse body = .ok v)) ∧
    ((∃ f, x.result = .error f ∧ f.isNotFound = true) ↔ ∃ body, reply = .answer 404 body) ∧
    (∀ f, x.result = .error f → f.isNotFound = false →
      ∃ message retryable, f = .ofKind (.platform message retryable) ∧
        (retryable = true ↔ reply = .lost ∨ ∃ status body, reply = .answer status body ∧ isServerError status = true)) ∧
    (Serves config.baseUrl → headerValid config.apiKey = true → headerValid config.apiSecret = true →
      reply = replies.headD .lost ∧ ∃ r, x.sent = [r] ∧ r.method = .put ∧ r.body = some change.json) := by
  intro x reply
  obtain ⟨result, judged, accepted, failed⟩ := updateTransaction_judged config change tenant replies
  refine ⟨accepted.trans judged.ok_iff, ?_, fun f failure found => ?_,
    updateTransaction_sent config change tenant replies⟩
  · rw [← judged.missing_iff]
    exact exists_congr fun f => and_congr_left fun _ => failed f
  · exact judged.failure ((failed f).1 failure) found

/-- A platform at an address of its own. -/
def sampleConfig : Config := ⟨"https://billing.example/1.0", "key", "secret", 10⟩

def sampleChange : StatusChange := ⟨.given 1, .given 2, .success, none, none⟩

/-- A change is accepted without content, and with whatever JSON there is. -/
theorem change_accepted_iff_of_sample :
    (∃ r, (updateTransaction sampleConfig sampleChange (.given 3) [.answer 204 []]).sent = [r] ∧ r.method = .put) ∧
    (updateTransaction sampleConfig sampleChange (.given 3) [.answer 204 []]).result = .ok () ∧
    (updateTransaction sampleConfig sampleChange (.given 3) [.answer 202 (Utf8.encode "[]")]).result = .ok () := by
  have serves : Serves sampleConfig.baseUrl :=
    ⟨⟨"https", [], [], some "billing.example".toList, "/1.0/".toList, none⟩, by decide +kernel⟩
  obtain ⟨accepted, -, -, reached⟩ := change_accepted_iff sampleConfig sampleChange (.given 3) [.answer 204 []]
  obtain ⟨reply, r, sent, put, -⟩ := reached serves (by decide) (by decide)
  obtain ⟨accepted', -, -, reached'⟩ :=
    change_accepted_iff sampleConfig sampleChange (.given 3) [.answer 202 (Utf8.encode "[]")]
  obtain ⟨reply', -⟩ := reached' serves (by decide) (by decide)
  exact ⟨⟨r, sent, put⟩, accepted.2 ⟨204, [], reply, rfl, .inl rfl⟩,
    accepted'.2 ⟨202, _, reply', rfl, .inr ⟨.array [], by decide +kernel⟩⟩⟩

/-- A change that the platform has made, which it says without content, is taken for one that was refused and that is not to
be tried again. -/
theorem accepted_change_refused :
    answerTo sampleConfig (changePath sampleChange) [.answer 200 []] = .answer 200 [] ∧ isSuccess 200 = true ∧
    (updateTransaction sampleConfig sampleChange (.given 3) [.answer 200 []]).result =
      .error (.platform ("invalid response from " ++ changePath sampleChange ++ ": " ++ notDecoded)) := by
  decide +kernel

end Reconciliation.Platform.Client
