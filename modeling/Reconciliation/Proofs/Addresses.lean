import Reconciliation.Http.Message

/-!
# Addresses that go on

An endpoint is written behind the address of a server, and only then the whole text is read. Behind the slash with which
the endpoint begins, nothing can go wrong: if the address of the server can be read with a slash behind it, then so can
all that begins with it.

* `clean_slash`, `scheme?_slash` and `hosted_slash` follow the slash through the reading of an address.
* `parse?_behind` says what is read of the whole text, and `parse?_slash` that it can be read. `Serves` is what this asks of
  the address of a server, and `Serves.address?_eq` is what it means for the requests to that server.
-/

namespace Reconciliation.Http

/-! ### Lists with a stop -/

section Stop

variable {α : Type} {p : α → Bool} {c : α}

theorem takeWhile_stop (h : p c = false) (l more : List α) : (l ++ c :: more).takeWhile p = l.takeWhile p := by
  induction l with
  | nil => simp [h]
  | cons a l ih => simp [List.takeWhile_cons, ih]

theorem dropWhile_stop (h : p c = false) (l more : List α) :
    (l ++ c :: more).dropWhile p = l.dropWhile p ++ c :: more := by
  induction l with
  | nil => simp [h]
  | cons a l ih =>
    rw [List.cons_append, List.dropWhile_cons, List.dropWhile_cons, ih]
    split <;> rfl

theorem drop_length_takeWhile (l : List α) : l.drop (l.takeWhile p).length = l.dropWhile p := by
  induction l with
  | nil => rfl
  | cons a l ih =>
    rw [List.takeWhile_cons, List.dropWhile_cons]
    split
    · exact ih
    · rfl

end Stop

namespace Url

/-! ### The slash on its way -/

/-- The characters that are read at all. -/
def isRead (c : Char) : Bool := c ≠ '\t' && c ≠ '\n' && c ≠ '\r'

/-- What is read of the end of a text. -/
def ending (behind : List Char) : List Char := (behind.reverse.dropWhile (·.toNat ≤ 32)).reverse.filter isRead

theorem ending_of_getLast {behind : List Char} {last : Char} (h : behind.getLast? = some last)
    (visible : 32 < last.toNat) : ending behind = behind.filter isRead := by
  obtain ⟨front, rfl⟩ := List.getLast?_eq_some_iff.1 h
  rw [ending, List.reverse_append, List.reverse_singleton, List.singleton_append,
    List.dropWhile_cons_of_neg (by simpa using visible), List.reverse_cons, List.reverse_reverse]

theorem clean_slash (front : List Char) :
    ∃ kept, (∀ c ∈ kept, c ∈ front) ∧ ∀ behind, clean (front ++ '/' :: behind) = kept ++ '/' :: ending behind := by
  refine ⟨(front.dropWhile (·.toNat ≤ 32)).filter isRead, fun c hc => ?_, fun behind => ?_⟩
  · exact (List.dropWhile_sublist _).subset (List.mem_filter.1 hc).1
  · have parts (l : List Char) : l.filter (fun c => c ≠ '\t' && c ≠ '\n' && c ≠ '\r') = l.filter isRead := rfl
    rw [clean, clean.stripC0, dropWhile_stop (by decide), List.reverse_append, List.reverse_cons, List.append_assoc,
      List.singleton_append, dropWhile_stop (by decide), parts, ending]
    simp [isRead]

/-- The characters of the name of a scheme. -/
def isNamed (c : Char) : Bool := c.isAlphanum || c = '+' || c = '-' || c = '.'

theorem scheme?_eq_some_iff {cs rest : List Char} {scheme : String} : scheme? cs = some (scheme, rest) ↔
    ∃ first name, cs.takeWhile isNamed = first :: name ∧ cs.dropWhile isNamed = ':' :: rest ∧ first.isAlpha = true ∧
      String.ofList ((first :: name).map Char.toLower) = scheme := by
  have parts (l : List Char) : (l.takeWhile fun c => c.isAlphanum || c = '+' || c = '-' || c = '.') =
    l.takeWhile isNamed := rfl
  rw [scheme?, parts, drop_length_takeWhile]
  rcases cs.takeWhile isNamed with _ | ⟨first, name⟩
  · simp
  · rcases cs.dropWhile isNamed with _ | ⟨c, behind⟩
    · simp
    · by_cases hc : c = ':'
      · subst hc
        constructor
        · intro h
          obtain ⟨letter, h⟩ := Option.ite_none_right_eq_some.1 h
          cases h
          exact ⟨first, name, rfl, rfl, letter, rfl⟩
        · rintro ⟨_, _, ⟨⟩, ⟨⟩, letter, rfl⟩
          exact if_pos letter
      · simp [hc]

theorem scheme?_slash {front rest : List Char} {scheme : String} (h : scheme? (front ++ ['/']) = some (scheme, rest)) :
    ∃ kept, (∀ c ∈ kept, c ∈ front) ∧ rest = kept ++ ['/'] ∧
      ∀ behind, scheme? (front ++ '/' :: behind) = some (scheme, kept ++ '/' :: behind) := by
  obtain ⟨first, name, named, colon, letter, lower⟩ := scheme?_eq_some_iff.1 h
  rw [takeWhile_stop (by decide)] at named
  rw [dropWhile_stop (by decide)] at colon
  rcases hdrop : front.dropWhile isNamed with _ | ⟨c, kept⟩
  · rw [hdrop] at colon
    cases colon
  · rw [hdrop, List.cons_append, List.cons.injEq] at colon
    obtain ⟨rfl, rfl⟩ := colon
    refine ⟨kept, fun c hc => ?_, rfl, fun behind => scheme?_eq_some_iff.2 ⟨first, name, ?_, ?_, letter, lower⟩⟩
    · exact (List.dropWhile_sublist _).subset (hdrop ▸ List.mem_cons_of_mem _ hc)
    · rw [takeWhile_stop (by decide), named]
    · rw [dropWhile_stop (by decide), hdrop, List.cons_append]

/-- The characters before the query and what is left out. -/
def isBody (c : Char) : Bool := c ≠ '?' && c ≠ '#'

/-- The query that begins what is behind the body. -/
def queryOf : List Char → Option (List Char)
  | '?' :: query => some (query.takeWhile (· ≠ '#'))
  | _ => none

/-- The part of an address behind the scheme, with what is behind the path. -/
def ofRest? (scheme : String) (rest : List Char) : Except Flaw Url :=
  ofBody? scheme (!(rest.dropWhile isBody).isEmpty) (rest.takeWhile isBody) (queryOf (rest.dropWhile isBody))

theorem parse?_eq {text : String} {scheme : String} {rest : List Char}
    (h : scheme? (clean text.toList) = some (scheme, rest)) : parse? text = ofRest? scheme rest := by
  have parts : (rest.takeWhile fun c => c ≠ '?' && c ≠ '#') = rest.takeWhile isBody := rfl
  unfold parse? ofRest?
  rw [h]
  dsimp only
  rw [parts, drop_length_takeWhile]
  split
  · next query behind => rw [behind]; rfl
  · next none =>
    rw [queryOf]
    exact none

/-- The part of a body in which user, host and port stand. -/
def authorityPart (body : List Char) : List Char :=
  (body.dropWhile Kind.web.isSlash).takeWhile (!Kind.web.isSlash ·)

/-- User, host and port can be read, given what is behind the scheme. -/
def Hosted (rest : List Char) : Prop :=
  let body := rest.takeWhile isBody
  let followed := !(rest.dropWhile isBody).isEmpty ||
    (authorityPart body).length < (body.dropWhile Kind.web.isSlash).length
  ∃ a, authority? .web followed (authorityPart body) = .ok a

/-- The part of a body in which the path stands. -/
def pathPart (body : List Char) : List Char := (body.dropWhile Kind.web.isSlash).dropWhile (!Kind.web.isSlash ·)

/-- Of what is behind the path, only matters whether it is there. -/
theorem hosted_of_ok {scheme : String} (web : Kind.ofScheme scheme = .web) {rest : List Char} {u : Url}
    (h : ofRest? scheme rest = .ok u) : Hosted rest := by
  revert h
  unfold ofRest? ofBody? Hosted authorityPart
  rw [web]
  dsimp only
  rcases authority? .web _ _ with flaw | a
  · rintro ⟨⟩
  · exact fun _ => ⟨a, rfl⟩

theorem ofRest?_of_hosted {scheme : String} (web : Kind.ofScheme scheme = .web) {rest : List Char} (h : Hosted rest) :
    ∃ u, ofRest? scheme rest = .ok u ∧ u.path = pathOf .web (pathPart (rest.takeWhile isBody)) ∧
      u.query = queryOf (rest.dropWhile isBody) := by
  obtain ⟨a, ha⟩ := h
  unfold ofRest? ofBody?
  rw [web]
  unfold authorityPart at ha
  dsimp only
  rw [ha]
  refine ⟨_, rfl, ?_, rfl⟩
  dsimp only
  rw [drop_length_takeWhile, pathPart]

theorem scheme_of_ofBody? {scheme : String} {followed : Bool} {body : List Char} {query : Option (List Char)} {u : Url}
    (h : ofBody? scheme followed body query = .ok u) : u.scheme = scheme := by
  unfold ofBody? at h
  simp only [bind, Except.bind, pure, Except.pure] at h
  -- every way to an address gives it the scheme
  repeat' split at h
  all_goals cases h
  all_goals rfl

theorem authority?_nil (followed : Bool) (a : Authority) : authority? .web followed [] ≠ .ok a := by
  cases followed <;> rintro ⟨⟩

/-- A slash ends the part with the host. -/
theorem authorityPart_slash {kept : List Char} (h : ∃ c ∈ kept, Kind.web.isSlash c = false) :
    ∃ part, ∀ more, authorityPart (kept ++ '/' :: more) = part ∧
      part.length < ((kept ++ '/' :: more).dropWhile Kind.web.isSlash).length := by
  obtain ⟨c, hc, stop⟩ := h
  obtain ⟨before, after, rfl⟩ := List.append_of_mem hc
  refine ⟨(before.dropWhile Kind.web.isSlash ++ c :: after).takeWhile (!Kind.web.isSlash ·), fun more => ?_⟩
  unfold authorityPart
  rw [List.append_assoc, List.cons_append, dropWhile_stop stop, ← List.cons_append, ← List.append_assoc,
    takeWhile_stop (by decide)]
  refine ⟨rfl, ?_⟩
  have : List.length _ ≤ (before.dropWhile Kind.web.isSlash ++ c :: after).length :=
    (List.takeWhile_sublist (!Kind.web.isSlash ·)).length_le
  simp only [List.length_append, List.length_cons] at this ⊢
  omega

/-- Behind nothing but slashes there is no host. -/
theorem host_of_hosted {kept : List Char} (plain : ∀ c ∈ kept, isBody c = true) (h : Hosted (kept ++ ['/'])) :
    ∃ c ∈ kept, Kind.web.isSlash c = false := by
  unfold Hosted at h
  dsimp only at h
  rw [List.takeWhile_append_of_pos plain, List.takeWhile_cons_of_pos (by decide)] at h
  refine Classical.byContradiction fun none => ?_
  have slashes : ∀ c ∈ kept, Kind.web.isSlash c = true := by simpa using none
  obtain ⟨a, ha⟩ := h
  rw [authorityPart, List.dropWhile_append_of_pos slashes] at ha
  exact authority?_nil _ a ha

theorem hosted_slash {kept : List Char} (h : Hosted (kept ++ ['/'])) (behind : List Char) :
    Hosted (kept ++ '/' :: behind) := by
  by_cases plain : ∀ c ∈ kept, isBody c = true
  · -- the slash is part of the body
    obtain ⟨part, ends⟩ := authorityPart_slash (host_of_hosted plain h)
    obtain ⟨part₀, less₀⟩ := ends (List.takeWhile isBody [])
    obtain ⟨part₁, less₁⟩ := ends (behind.takeWhile isBody)
    unfold Hosted at *
    dsimp only at *
    rw [List.takeWhile_append_of_pos plain, List.dropWhile_append_of_pos plain,
      List.takeWhile_cons_of_pos (by decide)] at *
    rw [part₀, decide_eq_true less₀, Bool.or_true] at h
    rw [part₁, decide_eq_true less₁, Bool.or_true]
    exact h
  · -- the body has ended before
    obtain ⟨c, hc, stop⟩ : ∃ c ∈ kept, isBody c = false := by simpa using plain
    obtain ⟨before, after, rfl⟩ := List.append_of_mem hc
    unfold Hosted at *
    dsimp only at *
    rw [List.append_assoc, List.cons_append, takeWhile_stop stop, dropWhile_stop stop] at h ⊢
    have behind_ne (l : List Char) : (before.dropWhile isBody ++ c :: l).isEmpty = false := by simp
    rwa [behind_ne] at h ⊢

/-- What is read of a text that begins as an address of the web and goes on behind a slash. -/
theorem parse?_behind {text : String} {u : Url} (h : parse? (text ++ "/") = .ok u)
    (web : Kind.ofScheme u.scheme = .web) :
    ∃ kept, (∀ c ∈ kept, c ∈ text.toList) ∧ ∀ more : String,
      parse? (text ++ "/" ++ more) = ofRest? u.scheme (kept ++ '/' :: ending more.toList) ∧
        Hosted (kept ++ '/' :: ending more.toList) := by
  have slash : (text ++ "/").toList = text.toList ++ ['/'] := by rw [String.toList_append]; rfl
  obtain ⟨kept, among, cleaned⟩ := clean_slash text.toList
  cases hs : scheme? (clean (text ++ "/").toList) with
  | none =>
    rw [parse?, hs] at h
    cases h
  | some x =>
    obtain ⟨scheme, rest⟩ := x
    rw [parse?_eq hs] at h
    obtain rfl := scheme_of_ofBody? h
    rw [slash, cleaned] at hs
    obtain ⟨body, within, rfl, goesOn⟩ := scheme?_slash hs
    refine ⟨body, fun c hc => among c (within c hc), fun more => ⟨parse?_eq ?_, hosted_slash (hosted_of_ok web h) _⟩⟩
    rw [String.toList_append, slash, List.append_assoc, List.singleton_append, cleaned]
    exact goesOn _

/-- A text that begins as an address of the web and goes on behind a slash. -/
theorem parse?_slash {text : String} {u : Url} (h : parse? (text ++ "/") = .ok u)
    (web : Kind.ofScheme u.scheme = .web) (more : String) : ∃ v, parse? (text ++ "/" ++ more) = .ok v := by
  obtain ⟨kept, -, behind⟩ := parse?_behind h web
  obtain ⟨parsed, hosted⟩ := behind more
  obtain ⟨v, ok, -⟩ := ofRest?_of_hosted web hosted
  exact ⟨v, parsed.trans ok⟩

end Url

/-- A text is the address of a server of the web, with a path or without. -/
def Serves (text : String) : Prop :=
  ∃ u, Url.parse? (text ++ "/") = .ok u ∧ (u.scheme = "http" ∨ u.scheme = "https")

/-- Whatever stands behind the slash, a request can be built. -/
theorem Serves.address?_eq {text : String} (h : Serves text) (more : String) (headers : List String)
    (valid : ∀ value ∈ headers, headerValid value = true) :
    ∃ url, Url.parse? (text ++ ("/" ++ more)) = .ok url ∧ address? headers (text ++ ("/" ++ more)) = some url := by
  obtain ⟨u, parsed, scheme⟩ := h
  have web : Url.Kind.ofScheme u.scheme = .web := by
    rcases scheme with scheme | scheme <;> rw [scheme] <;> rfl
  obtain ⟨url, hurl⟩ := Url.parse?_slash parsed web more
  rw [String.append_assoc] at hurl
  refine ⟨url, hurl, ?_⟩
  rw [address?, if_pos (List.all_eq_true.2 valid), hurl]
  rfl

end Reconciliation.Http
