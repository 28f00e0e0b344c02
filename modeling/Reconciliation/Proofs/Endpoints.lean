import Mathlib.Data.List.TakeWhile
import Reconciliation.Proofs.Paths
import Reconciliation.Proofs.Retries

/-!
# Where changes are sent

The reference of the payment that is to be changed is put into the address as it is. If it is one plain segment, the request
goes to the endpoint of this payment and this change; if it is not, what stands in it decides where the request goes.

* `Plain` are the texts that stand in a path as one segment for themselves.
* `OwnEndpoint` is what the target of a change should be; `OwnEndpoint.unique` says that it tells payment and change.
* `ServesAt.ownEndpoint_iff` is about the addresses, `modification_endpoint_iff` about the requests that are sent, and
  `cancel_addressed_as_refund` is a change that goes to the endpoint of another.
-/

namespace Reconciliation.Http.Url

open Text

/-! ### Plain texts -/

/-- The characters that end a segment, or that are not read. -/
def reserved : List Char := ['/', '\\', '?', '#', '\t', '\n', '\r']

/-- A text stands in a path as one segment, and for itself. -/
def Plain (cs : List Char) : Prop :=
  (∀ c ∈ cs, c ∉ reserved) ∧ cs ≠ ['.'] ∧ cs ≠ ['.', '.'] ∧ hasEscape cs = false

-- named, since there are other ways to decide a statement about characters
instance : DecidablePred Plain := fun cs =>
  @instDecidableAnd _ _ (List.decidableBAll (· ∉ reserved) cs) _

theorem not_mem_reserved_iff {c : Char} :
    c ∉ reserved ↔ Kind.web.isSlash c = false ∧ isBody c = true ∧ isRead c = true := by
  simp [reserved, Kind.isSlash, isBody, isRead]
  tauto

namespace Plain

variable {cs : List Char}

theorem free (h : Plain cs) : ∀ c ∈ cs, Kind.web.isSlash c = false := fun c hc =>
  (not_mem_reserved_iff.1 (h.1 c hc)).1

theorem body (h : Plain cs) : ∀ c ∈ cs, isBody c = true := fun c hc => (not_mem_reserved_iff.1 (h.1 c hc)).2.1

theorem read (h : Plain cs) : ∀ c ∈ cs, isRead c = true := fun c hc => (not_mem_reserved_iff.1 (h.1 c hc)).2.2

theorem isDots (h : Plain cs) : isDots cs = false := by
  obtain ⟨-, dot, dots, none⟩ := h
  rw [Url.isDots, isDoubleDot, isSingleDot, plainDots_eq none, decide_eq_false dots, decide_eq_false dot]
  rfl

/-- It stands for itself. -/
theorem unescape_escape (h : Plain cs) : unescape (escape pathExtra cs) = bytes cs := by
  rw [Http.unescape_escape, unescape_eq h.2.2.2]

end Plain

/-- The word before the reference. -/
def payments : List Char := "payments".toList

/-- The words in the addresses of changes. -/
def words : List (List Char) := [payments, "captures".toList, "refunds".toList, "cancels".toList]

theorem words_plain : ∀ w ∈ words, Plain w := by decide

theorem words_escape : ∀ w ∈ words, escape pathExtra w = w := by decide

theorem words_visible : ∀ w ∈ words, w.getLast?.any (32 < ·.toNat) = true := by decide

/-- What is written behind the address of the server for a change. -/
def named (reference action : List Char) : List Char := payments ++ '/' :: (reference ++ '/' :: action)

theorem divided_named (reference action : List Char) :
    divided [payments, reference, action] = '/' :: named reference action := by
  simp [divided, named]

theorem endpoint_named (reference action : String) : "/payments/" ++ reference ++ "/" ++ action =
    "/" ++ String.ofList (named reference.toList action.toList) := by
  have slash : "/".toList = ['/'] := rfl
  have word : "/payments/".toList = '/' :: payments ++ ['/'] := rfl
  simp [← String.toList_inj, named, slash, word]

section Named

variable {reference action s : List Char}

theorem ending_named (ha : action ∈ words) :
    ending (named reference action) = named (reference.filter isRead) action := by
  have visible := words_visible action ha
  cases hl : action.getLast? with
  | none =>
    rw [hl] at visible
    cases visible
  | some last =>
    have whole : (named reference action).getLast? = some last := by
      simp [named, List.getLast?_cons, List.getLast?_append, hl]
    have kept (w : List Char) (hw : w ∈ words) : w.filter isRead = w := List.filter_eq_self.2 (words_plain w hw).read
    rw [hl] at visible
    rw [ending_of_getLast whole (by simpa using visible), named, List.filter_append,
      List.filter_cons_of_pos (by decide), List.filter_append, List.filter_cons_of_pos (by decide), kept action ha,
      kept payments (by decide), named]

/-- The segments of the address that a plain reference makes. -/
theorem segments_named (hr : Plain reference) (ha : action ∈ words) :
    segments .web (named reference action) = [payments, reference, action] := by
  rw [named, segments_slash (by decide), segments_slash (by decide), segments_of_free (words_plain payments (by decide)).free,
    segments_of_free hr.free, segments_of_free (words_plain action ha).free]
  rfl

/-- The segments of the address of a change are of its reference, or they are words. -/
theorem mem_segments_named (ha : action ∈ words) (h : s ∈ segments .web ((named reference action).takeWhile isBody)) :
    s ∈ words ∨ s ∈ segments .web (reference.takeWhile isBody) := by
  have front : payments ∈ words := by decide
  have body (w : List Char) (hw : w ∈ words) : ∀ c ∈ w, isBody c = true := (words_plain w hw).body
  have whole (w : List Char) (hw : w ∈ words) : segments .web w = [w] := segments_of_free (words_plain w hw).free
  rw [named, List.takeWhile_append_of_pos (body payments front), List.takeWhile_cons_of_pos (by decide),
    segments_slash (by decide), whole payments front, List.mem_append, List.mem_singleton] at h
  rcases h with rfl | h
  · exact .inl front
  by_cases plain : ∀ c ∈ reference, isBody c = true
  · rw [List.takeWhile_append_of_pos plain, List.takeWhile_cons_of_pos (by decide), segments_slash (by decide),
      List.takeWhile_eq_self_iff.2 (body action ha), whole action ha, List.mem_append, List.mem_singleton] at h
    rcases h with h | rfl
    · rw [List.takeWhile_eq_self_iff.2 plain]
      exact .inr h
    · exact .inl ha
  · -- the reference ends the path
    obtain ⟨c, hc, stop⟩ : ∃ c ∈ reference, isBody c = false := by simpa using plain
    obtain ⟨before, behind, rfl⟩ := List.append_of_mem hc
    rw [List.append_assoc, List.cons_append, takeWhile_stop stop] at h
    rw [takeWhile_stop stop]
    exact .inr h

/-- A segment of the address of a change that stands for the whole reference is the reference, and is plain. -/
theorem plain_of_segment (ha : action ∈ words)
    (h : s = [] ∨ isDots s = false ∧ s ∈ segments .web ((named (reference.filter isRead) action).takeWhile isBody))
    (stands : unescape s = bytes reference) : Plain reference := by
  -- a text without escapes can stand for one text only
  have same (none : hasEscape s = false) : s = reference := bytes_injective ((unescape_eq none).symm.trans stands)
  rcases h with rfl | ⟨dots, hs⟩
  · rw [← same rfl]
    decide
  rcases mem_segments_named ha hs with word | hs
  · have plain := words_plain s word
    rwa [← same plain.2.2.2]
  · obtain ⟨part, free⟩ := mem_segments hs
    have part : s.Sublist reference := part.trans ((List.takeWhile_sublist _).trans List.filter_sublist)
    -- an escape would leave too few bytes
    have none : hasEscape s = false := by
      rw [Bool.eq_false_iff]
      intro escaped
      have less := length_unescape_lt escaped
      have most := length_bytes_le part
      rw [stands] at less
      omega
    have among : ∀ c ∈ s, isBody c = true ∧ isRead c = true := fun c hc => by
      have := (mem_segments hs).1.subset hc
      exact ⟨List.mem_takeWhile_imp this, List.of_mem_filter (List.takeWhile_sublist _ |>.subset this)⟩
    refine same none ▸ ⟨fun c hc => not_mem_reserved_iff.2 ⟨free c hc, among c hc⟩, ?_, ?_, none⟩
    · rintro rfl
      cases dots
    · rintro rfl
      cases dots

end Named

/-! ### Addresses of changes -/

/-- A text is the address of a server with a path, and of nothing more. -/
def ServesAt (text base : String) : Prop :=
  ∃ u, parse? (text ++ "/") = .ok u ∧ (u.scheme = "http" ∨ u.scheme = "https") ∧
    u.path = base.toList ++ ['/'] ∧ ∀ c ∈ text.toList, isBody c = true

/-- A target is below the path of the server, with one segment that stands for the reference and one for the change. -/
def OwnEndpoint (base reference action target : String) : Prop :=
  ∃ segment : List Char, '/' ∉ segment ∧ '?' ∉ segment ∧ unescape segment = Utf8.encode reference ∧
    target = base ++ "/payments/" ++ String.ofList segment ++ "/" ++ action

theorem toList_endpoint (base action : String) (segment : List Char) :
    (base ++ "/payments/" ++ String.ofList segment ++ "/" ++ action).toList =
      base.toList ++ divided [payments, segment, action.toList] := by
  have behind := endpoint_named (String.ofList segment) action
  rw [String.append_assoc, String.append_assoc, String.toList_ofList] at behind
  rw [String.append_assoc, String.append_assoc, String.append_assoc, behind, String.toList_append, String.toList_append,
    String.toList_ofList (l := named _ _), divided_named]
  rfl

theorem not_mem_word {c : Char} (hc : c ∈ reserved) {w : List Char} (hw : w ∈ words) : c ∉ w := fun h =>
  (words_plain w hw).1 c h hc

theorem parts_free {segment action : List Char} (free : '/' ∉ segment) (ha : action ∈ words) :
    ∀ s ∈ [payments, segment, action], '/' ∉ s := by
  have others : '/' ∉ payments ∧ '/' ∉ action := ⟨not_mem_word (by decide) (by decide), not_mem_word (by decide) ha⟩
  simp [others, free]

/-- Reference and change can be told from the target. -/
theorem OwnEndpoint.unique {base target reference action reference' action' : String} (ha : action.toList ∈ words)
    (ha' : action'.toList ∈ words) (h : OwnEndpoint base reference action target)
    (h' : OwnEndpoint base reference' action' target) : reference = reference' ∧ action = action' := by
  obtain ⟨segment, free, -, stands, rfl⟩ := h
  obtain ⟨segment', free', -, stands', same⟩ := h'
  have parts := congrArg String.toList same
  rw [toList_endpoint, toList_endpoint] at parts
  have equal := divided_injective (parts_free free ha) (parts_free free' ha') (List.append_cancel_left parts)
  simp only [List.cons.injEq, true_and, and_true] at equal
  obtain ⟨rfl, actions⟩ := equal
  exact ⟨String.toList_injective (bytes_injective (stands.symm.trans stands')), String.toList_injective actions⟩

section Address

variable {text base : String}

/-- A target that is its own has no query: its path goes on behind that of the server. -/
theorem OwnEndpoint.path_eq {reference action : String} {v : Url} {front : List (List Char)}
    (h : base.toList = join front) (ha : action.toList ∈ words) (own : OwnEndpoint base reference action v.target) :
    ∃ segment, '/' ∉ segment ∧ unescape segment = bytes reference.toList ∧
      v.path = join front ++ divided [payments, segment, action.toList] := by
  obtain ⟨segment, free, noQuery, stands, same⟩ := own
  have parts := congrArg String.toList same
  rw [toList_endpoint, target, String.toList_ofList, h] at parts
  refine ⟨segment, free, stands, ?_⟩
  cases query : v.query with
  | none => rwa [query, List.append_nil] at parts
  | some q =>
    rw [query] at parts
    have mark : '?' ∈ v.path ++ '?' :: escape queryExtra q := by simp
    rw [parts, List.mem_append] at mark
    rcases mark with mark | mark
    · exact absurd mark (not_mem_join (by decide) (by decide) (by decide) (by decide) _)
    · have others : '?' ∉ payments ∧ '?' ∉ action.toList :=
        ⟨not_mem_word (by decide) (by decide), not_mem_word (by decide) ha⟩
      exact absurd mark (not_mem_divided (by decide) (by simp [others, noQuery]))

theorem ServesAt.serves (h : ServesAt text base) : Serves text := by
  obtain ⟨u, parsed, scheme, -⟩ := h
  exact ⟨u, parsed, scheme⟩

/-- The target of a change: the segments of its address are put behind those of the server. -/
theorem ServesAt.resolved (h : ServesAt text base) (reference action : String) (ha : action.toList ∈ words) :
    ∃ done : List (List Char), (∀ s ∈ done, '/' ∉ s) ∧ base.toList = join done.reverse ∧
      ∃ v, parse? (text ++ ("/payments/" ++ reference ++ "/" ++ action)) = .ok v ∧
        let rest := named (reference.toList.filter isRead) action.toList
        v.path = join (resolve done (segments .web (rest.takeWhile isBody))) ∧
        v.query = queryOf (rest.dropWhile isBody) := by
  obtain ⟨u, parsed, scheme, path, plain⟩ := h
  have web : Kind.ofScheme u.scheme = .web := by
    rcases scheme with scheme | scheme <;> rw [scheme] <;> rfl
  obtain ⟨done, free, front, below⟩ := parse?_below parsed web plain
  obtain ⟨v, ok, found, query⟩ := below (String.ofList (named reference.toList action.toList))
  rw [String.append_assoc, ← endpoint_named] at ok
  rw [String.toList_ofList, ending_named ha] at found query
  exact ⟨done, free, List.append_cancel_right (path.symm.trans front), v, ok, found, query⟩

/-- The segment of a plain reference is its own. -/
theorem ServesAt.ownEndpoint_of_plain (h : ServesAt text base) {reference action : String}
    (ha : action.toList ∈ words) (plain : Plain reference.toList) {v : Url}
    (parsed : parse? (text ++ ("/payments/" ++ reference ++ "/" ++ action)) = .ok v) :
    OwnEndpoint base reference action v.target := by
  obtain ⟨done, -, front, v', ok, path, query⟩ := h.resolved reference action ha
  obtain rfl := Except.ok.inj (parsed.symm.trans ok)
  have whole : reference.toList.filter isRead = reference.toList := List.filter_eq_self.2 plain.read
  have others : Plain payments ∧ Plain action.toList := ⟨words_plain payments (by decide), words_plain _ ha⟩
  have body : ∀ c ∈ named reference.toList action.toList, isBody c = true := by
    rw [named, List.forall_mem_append, List.forall_mem_cons, List.forall_mem_append, List.forall_mem_cons]
    exact ⟨others.1.body, by decide, plain.body, by decide, others.2.body⟩
  have dots : ∀ s ∈ [payments, reference.toList, action.toList], isDots s = false := by
    simp [others.1.isDots, plain.isDots, others.2.isDots]
  rw [whole, List.takeWhile_eq_self_iff.2 body, segments_named plain ha, resolve_plain dots, join_append, ← front,
    join_eq] at path
  rw [whole, List.dropWhile_eq_nil_iff.2 body] at query
  have free {c : Char} (hc : c ∈ reserved) (sign : c ≠ '%') (digit : Ident.hexDigit? c = none) :
      c ∉ escape pathExtra reference.toList := fun among => plain.1 c (mem_escape among sign digit).1 hc
  refine ⟨escape pathExtra reference.toList, free (by decide) (by decide) (by decide),
    free (by decide) (by decide) (by decide), plain.unescape_escape, ?_⟩
  rw [← String.toList_inj, toList_endpoint, target, query, String.toList_ofList, path, List.map_cons, List.map_cons,
    List.map_cons, words_escape payments (by decide), words_escape _ ha]
  exact List.append_nil _

/-- Where the target of a change is its own, no part of the reference is read as anything else. -/
theorem ServesAt.plain_of_ownEndpoint (h : ServesAt text base) {reference action : String}
    (ha : action.toList ∈ words) {v : Url}
    (parsed : parse? (text ++ ("/payments/" ++ reference ++ "/" ++ action)) = .ok v)
    (own : OwnEndpoint base reference action v.target) : Plain reference.toList := by
  obtain ⟨done, free, front, v', ok, path, -⟩ := h.resolved reference action ha
  obtain rfl := Except.ok.inj (parsed.symm.trans ok)
  obtain ⟨segment, noSlash, stands, whole⟩ := own.path_eq front ha
  generalize hS : (named (reference.toList.filter isRead) action.toList).takeWhile isBody = body at path
  rw [path, join_eq, join_eq, ← divided_append] at whole
  have resolvedFree : ∀ s ∈ (resolve done (segments .web body)).map (escape pathExtra), '/' ∉ s :=
    List.forall_mem_map.2 fun s hs => slash_not_mem_escape (resolve_free free body s hs)
  have ownFree : ∀ s ∈ done.reverse.map (escape pathExtra) ++ [payments, segment, action.toList], '/' ∉ s :=
    List.forall_mem_append.2 ⟨List.forall_mem_map.2 fun s hs => slash_not_mem_escape (free s (List.mem_reverse.1 hs)),
      parts_free noSlash ha⟩
  have grown : Grown (fun s => s = [] ∨ isDots s = false ∧ s ∈ segments .web body) done
      (resolve done (segments .web body)).reverse :=
    .resolve (.kept (List.suffix_refl done)) (.inl rfl) fun s hs dots => .inr ⟨dots, hs⟩
  obtain ⟨s, new, rfl⟩ := grown.exists_of_map (divided_injective resolvedFree ownFree whole)
  rw [unescape_escape] at stands
  rw [← hS] at new
  exact plain_of_segment ha new stands

/-- The target of a change is its own if and only if the reference is plain. -/
theorem ServesAt.ownEndpoint_iff (h : ServesAt text base) {reference action : String} (ha : action.toList ∈ words)
    {v : Url} (parsed : parse? (text ++ ("/payments/" ++ reference ++ "/" ++ action)) = .ok v) :
    OwnEndpoint base reference action v.target ↔ Plain reference.toList :=
  ⟨h.plain_of_ownEndpoint ha parsed, fun plain => h.ownEndpoint_of_plain ha plain parsed⟩

end Address
end Reconciliation.Http.Url

namespace Reconciliation.Gateway

open Http Http.Url Text

/-- What is to be changed, and the word for the change. -/
def Request.modification? : Request → Option (Modification × String)
  | .authorize _ | .credit _ => none
  | .capture m => some (m, "captures")
  | .refund m => some (m, "refunds")
  | .cancel m => some (m, "cancels")

theorem Request.endpoint_of_modification {g : Request} {m : Modification} {action : String}
    (h : g.modification? = some (m, action)) :
    g.endpoint = "/payments/" ++ m.parentReference ++ "/" ++ action ∧ g.reference = m.reference ∧
      action.toList ∈ words := by
  cases g with
  | authorize | credit => cases h
  | capture | refund | cancel =>
    cases h
    exact ⟨rfl, rfl, by decide⟩

namespace Client

variable {config : Config} {g : Request} {replies : List Reply} {x : Http.Request}

/-- All that is sent is one request, and it is sent. -/
theorem attempts_sent (url : String) (r : Http.Request) (left : Nat) (replies : List Reply) :
    (attempts url r left replies).1 ≠ [] ∧ ∀ x ∈ (attempts url r left replies).1, x = r := by
  induction left generalizing replies with
  | zero =>
    rw [attempts]
    cases judge url _ (replies.headD .lost) <;> simp
  | succ left ih =>
    rw [attempts]
    cases judge url _ (replies.headD .lost) with
    | accepted | refused => simp
    | again why => exact ⟨List.cons_ne_nil _ _, List.forall_mem_cons.2 ⟨rfl, (ih _).2⟩⟩

theorem parse?_of_address? {headers : List String} {text : String} {url : Url} (h : address? headers text = some url) :
    Url.parse? text = .ok url := by
  obtain ⟨-, h⟩ := Option.ite_none_right_eq_some.1 h
  cases parsed : Url.parse? text with
  | error flaw =>
    rw [parsed] at h
    cases h
  | ok v =>
    rw [parsed] at h
    exact congrArg Except.ok (Option.some.inj h)

/-- Requests are sent where the address of the server with the endpoint leads. -/
theorem target_of_sent (h : x ∈ (perform config g replies).sent) :
    ∃ url, Url.parse? (config.baseUrl ++ g.endpoint) = .ok url ∧ x.target = url.target := by
  cases built : g.body? with
  | error flaw =>
    rw [perform_of_flaw built] at h
    cases h
  | ok body =>
    cases address : address? [config.apiKey, g.reference] (config.baseUrl ++ g.endpoint) with
    | none =>
      rw [perform_of_unaddressed built address] at h
      cases h
    | some url =>
      rw [perform_of_body built, send, post_eq address] at h
      obtain rfl := (attempts_sent _ _ _ _).2 x h
      exact ⟨url, parse?_of_address? address, rfl⟩

/-- A request with a body is sent, to an address that can be built. -/
theorem sent_ne_nil {body : Json.Value} (built : g.body? = .ok body) (serves : Serves config.baseUrl)
    (apiKey : headerValid config.apiKey = true) (reference : headerValid g.reference = true) (replies : List Reply) :
    (perform config g replies).sent ≠ [] := by
  obtain ⟨more, endpoint⟩ := endpoint_slash g
  obtain ⟨url, -, address⟩ := serves.address?_eq more [config.apiKey, g.reference] (by simp [apiKey, reference])
  rw [← endpoint] at address
  rw [perform_of_body built, send, post_eq address]
  exact (attempts_sent _ _ _ _).1

/-- A change of a payment is sent if it has a body and valid headers. What is sent goes to the endpoint of this payment and
this change if and only if the reference of the payment is plain; and two changes with plain references go to the same
target only if they are the same change of the same payment. -/
theorem modification_endpoint_iff {base : String} (serves : ServesAt config.baseUrl base) {m : Modification}
    {action : String} (change : g.modification? = some (m, action)) :
    (headerValid config.apiKey = true → headerValid m.reference = true → (∃ body, g.body? = .ok body) →
      ∀ replies, (perform config g replies).sent ≠ []) ∧
    ∀ replies, ∀ x ∈ (perform config g replies).sent,
      (OwnEndpoint base m.parentReference action x.target ↔ Plain m.parentReference.toList) ∧
      (Plain m.parentReference.toList → ∀ g' m' action' replies', Request.modification? g' = some (m', action') →
        Plain m'.parentReference.toList → ∀ x' ∈ (perform config g' replies').sent, x'.target = x.target →
          m'.parentReference = m.parentReference ∧ action' = action) := by
  have own {g : Request} {m : Modification} {action : String} {replies : List Reply} {x : Http.Request}
      (change : g.modification? = some (m, action)) (sent : x ∈ (perform config g replies).sent) :
      OwnEndpoint base m.parentReference action x.target ↔ Plain m.parentReference.toList := by
    obtain ⟨endpoint, -, ha⟩ := Request.endpoint_of_modification change
    obtain ⟨url, parsed, target⟩ := target_of_sent sent
    rw [endpoint] at parsed
    rw [target]
    exact serves.ownEndpoint_iff ha parsed
  obtain ⟨-, reference, ha⟩ := Request.endpoint_of_modification change
  refine ⟨fun apiKey valid ⟨body, built⟩ replies =>
    sent_ne_nil built serves.serves apiKey (reference ▸ valid) replies, fun replies x sent => ⟨own change sent, ?_⟩⟩
  intro plain g' m' action' replies' change' plain' x' sent' same
  have there := (own change' sent').2 plain'
  rw [same] at there
  exact there.unique (Request.endpoint_of_modification change').2.2 ha ((own change sent).2 plain)

/-- A cancellation goes to the endpoint of cancellations of its payment. -/
theorem modification_endpoint_iff_of_cancellation :
    (perform Config.default cancellation []).sent ≠ [] ∧
      ∀ x ∈ (perform Config.default cancellation []).sent, OwnEndpoint "/v71" "P" "cancels" x.target := by
  have serves : ServesAt Config.default.baseUrl "/v71" :=
    ⟨⟨"https", [], [], some "checkout-test.adyen.com".toList, "/v71/".toList, none⟩, by decide +kernel, .inr rfl, rfl,
      List.all_eq_true.1 (by decide +kernel)⟩
  obtain ⟨sent, own⟩ := modification_endpoint_iff (g := cancellation) serves rfl
  exact ⟨sent (by decide) (by decide) ⟨_, rfl⟩ [], fun x hx => (own [] x hx).1.2 (by decide +kernel)⟩

/-- A change of the payment with a reference. -/
def changeOf (reference : String) : Modification := ⟨"ShopEU", reference, "R", none, none⟩

/-- A cancellation that goes where a refund of another payment goes: what is behind the number sign is not sent. -/
theorem cancel_addressed_as_refund :
    (perform Config.default (.cancel (changeOf "X/refunds#")) []).sent.map (·.target) =
        List.replicate 4 "/v71/payments/X/refunds" ∧
      (perform Config.default (.refund (changeOf "X")) []).sent.map (·.target) =
        List.replicate 4 "/v71/payments/X/refunds" := by
  decide +kernel

end Client
end Reconciliation.Gateway
