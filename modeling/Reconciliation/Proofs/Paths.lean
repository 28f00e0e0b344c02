import Reconciliation.Proofs.Addresses
import Reconciliation.Proofs.Escapes

/-!
# Paths behind an address

What stands behind the slash of an address is divided into segments, and these are put behind those of the address, one
after the other; only a segment of dots takes away the one before. So the segments of a path are of the text, or they were
there before.

* `segments_slash` divides a text at a slash, `mem_segments` says what segments are made of.
* `resolve_append` and `resolve_plain` put segments behind others, `Grown.resolve` says what there can be at the end.
* `divided_injective` reads the segments back from a path.
* `parse?_below` is the statement about an address with a text behind it.
-/

namespace Reconciliation.Http.Url

/-! ### Segments -/

section Segments

variable {k : Kind} {cs s : List Char} {c : Char}

theorem segments_ne_nil (k : Kind) (cs : List Char) : segments k cs ≠ [] := by
  cases cs with
  | nil => rw [segments]; simp
  | cons c cs =>
    rw [segments]
    split
    · simp
    · split <;> simp

/-- A character that is no slash is part of the first segment. -/
theorem segments_cons (h : k.isSlash c = false) (cs : List Char) :
    ∃ s more, segments k cs = s :: more ∧ segments k (c :: cs) = (c :: s) :: more := by
  rw [segments, if_neg (by simp [h])]
  cases hs : segments k cs with
  | nil => exact absurd hs (segments_ne_nil k cs)
  | cons s more => exact ⟨s, more, rfl, rfl⟩

theorem segments_slash (h : k.isSlash c = true) (front behind : List Char) :
    segments k (front ++ c :: behind) = segments k front ++ segments k behind := by
  induction front with
  | nil =>
    rw [List.nil_append, segments, segments, if_pos h]
    rfl
  | cons d front ih =>
    cases hd : k.isSlash d with
    | true => rw [List.cons_append, segments, segments, if_pos hd, if_pos hd, ih, List.cons_append]
    | false =>
      obtain ⟨s, more, first, joined⟩ := segments_cons hd front
      obtain ⟨s', more', first', joined'⟩ := segments_cons hd (front ++ c :: behind)
      rw [ih, first, List.cons_append, List.cons.injEq] at first'
      obtain ⟨rfl, rfl⟩ := first'
      rw [List.cons_append, joined', joined, List.cons_append]

theorem segments_of_free (h : ∀ c ∈ cs, k.isSlash c = false) : segments k cs = [cs] := by
  induction cs with
  | nil => rfl
  | cons c cs ih =>
    rw [List.forall_mem_cons] at h
    obtain ⟨s, more, first, joined⟩ := segments_cons h.1 cs
    rw [ih h.2, List.cons.injEq] at first
    obtain ⟨rfl, rfl⟩ := first
    exact joined

theorem mem_segments (h : s ∈ segments k cs) : s.Sublist cs ∧ ∀ c ∈ s, k.isSlash c = false := by
  induction cs generalizing s with
  | nil =>
    obtain rfl := List.mem_singleton.1 h
    exact ⟨List.Sublist.refl _, by simp⟩
  | cons c cs ih =>
    cases hc : k.isSlash c with
    | true =>
      rw [segments, if_pos hc, List.mem_cons] at h
      obtain rfl | h := h
      · exact ⟨List.nil_sublist _, by simp⟩
      · exact ⟨(ih h).1.cons _, (ih h).2⟩
    | false =>
      obtain ⟨t, more, first, joined⟩ := segments_cons hc cs
      rw [joined, List.mem_cons] at h
      obtain rfl | h := h
      · obtain ⟨part, free⟩ := ih (first ▸ List.mem_cons_self)
        exact ⟨part.cons_cons _, List.forall_mem_cons.2 ⟨hc, free⟩⟩
      · obtain ⟨part, free⟩ := ih (first ▸ List.mem_cons_of_mem _ h)
        exact ⟨part.cons _, free⟩

end Segments

/-! ### Segments of dots -/

section Dots

variable {s : List Char} {done ss : List (List Char)}

/-- A segment that is resolved and does not stand in the path. -/
def isDots (s : List Char) : Bool := isDoubleDot s || isSingleDot s

/-- The segments up to a new one, the last first. -/
def after (done : List (List Char)) (s : List Char) : List (List Char) :=
  if isDoubleDot s then done.tail else if isSingleDot s then done else s :: done

theorem resolve_cons (done : List (List Char)) (s : List Char) (rest : List (List Char)) :
    resolve done (s :: rest) = resolve (if rest.isEmpty && isDots s then [] :: after done s else after done s) rest := rfl

theorem after_of_plain (h : isDots s = false) : after done s = s :: done := by
  obtain ⟨double, single⟩ := Bool.or_eq_false_iff.1 h
  rw [after, double, single]
  rfl

/-- Only at the end of all do dots leave an empty segment. -/
theorem resolve_append (done front : List (List Char)) {rest : List (List Char)} (h : rest ≠ []) :
    resolve done (front ++ rest) = resolve (front.foldl after done) rest := by
  induction front generalizing done with
  | nil => rfl
  | cons s front ih =>
    have goesOn : (front ++ rest).isEmpty = false := by simp [h]
    rw [List.cons_append, resolve_cons, goesOn, Bool.false_and, if_neg Bool.false_ne_true, ih, List.foldl_cons]

/-- Segments without dots are put behind those before. -/
theorem resolve_plain (h : ∀ s ∈ ss, isDots s = false) : resolve done ss = done.reverse ++ ss := by
  induction ss generalizing done with
  | nil => rw [resolve, List.append_nil]
  | cons s ss ih =>
    rw [List.forall_mem_cons] at h
    rw [resolve_cons, h.1, Bool.and_false, if_neg Bool.false_ne_true, after_of_plain h.1, ih h.2, List.reverse_cons,
      List.append_assoc, List.singleton_append]

/-- A text without escapes has no escaped dots. -/
theorem plainDots_eq {cs : List Char} (h : hasEscape cs = false) : plainDots cs = cs := by
  fun_induction plainDots cs with
  | case1 e rest he ih =>
    -- an escaped dot is an escape
    have escaped : startsHex ('2' :: e :: rest) = true := by
      rcases Bool.or_eq_true_iff.1 he with he | he <;> rw [of_decide_eq_true he] <;> rfl
    simp [hasEscape, escaped] at h
  | case2 e rest _ ih =>
    have behind : hasEscape rest = false := by
      simp only [hasEscape, Bool.or_eq_false_iff] at h
      exact h.2.2.2
    rw [ih behind]
  | case3 c rest _ ih =>
    obtain ⟨-, behind⟩ := Bool.or_eq_false_iff.1 h
    rw [ih behind]
  | case4 => rfl

/-- What is left of `done`, with segments behind it that have a property; the last first. -/
inductive Grown (P : List Char → Prop) (done : List (List Char)) : List (List Char) → Prop where
  | kept {d : List (List Char)} (left : d <:+ done) : Grown P done d
  | pushed {s : List Char} {d : List (List Char)} (new : P s) (g : Grown P done d) : Grown P done (s :: d)

namespace Grown

variable {P : List Char → Prop} {d : List (List Char)}

theorem tail (g : Grown P done d) : Grown P done d.tail := by
  cases g with
  | kept left => exact .kept ((List.tail_suffix d).trans left)
  | pushed _ g => exact g

theorem after (g : Grown P done d) (h : isDots s = false → P s) : Grown P done (after d s) := by
  unfold Url.after
  split
  · exact g.tail
  · next double =>
    split
    · exact g
    · next single => exact .pushed (h (by simp [isDots, double, single])) g

theorem foldl (g : Grown P done d) (h : ∀ s ∈ ss, isDots s = false → P s) : Grown P done (ss.foldl Url.after d) := by
  induction ss generalizing d with
  | nil => exact g
  | cons s ss ih =>
    rw [List.forall_mem_cons] at h
    exact ih (g.after h.1) h.2

theorem resolve (g : Grown P done d) (nil : P []) (h : ∀ s ∈ ss, isDots s = false → P s) :
    Grown P done (Url.resolve d ss).reverse := by
  induction ss generalizing d with
  | nil => rwa [Url.resolve, List.reverse_reverse]
  | cons s ss ih =>
    rw [List.forall_mem_cons] at h
    rw [resolve_cons]
    split
    · exact ih (.pushed nil (g.after h.1)) h.2
    · exact ih (g.after h.1) h.2

theorem mem (g : Grown P done d) : ∀ s ∈ d, s ∈ done ∨ P s := by
  induction g with
  | kept left => exact fun s hs => .inl (left.subset hs)
  | pushed new _ ih => exact List.forall_mem_cons.2 ⟨.inr new, ih⟩

/-- A segment in excess of `done` is a new one. -/
theorem top (g : Grown P done (s :: d)) (long : done.length ≤ d.length) : P s ∧ Grown P done d := by
  cases g with
  | kept left =>
    have := left.length_le
    rw [List.length_cons] at this
    omega
  | pushed new g => exact ⟨new, g⟩

/-- Of three segments behind as many as were there before, the second is a new one. -/
theorem exists_of_map {α : Type} {f : List Char → α} {a b c : α} (g : Grown P done ss.reverse)
    (h : ss.map f = done.reverse.map f ++ [a, b, c]) : ∃ s, P s ∧ f s = b := by
  obtain ⟨front, last, rfl, old, new⟩ := List.map_eq_append_iff.1 h
  obtain ⟨x, last, rfl, -, new⟩ := List.map_eq_cons_iff.1 new
  obtain ⟨y, last, rfl, second, new⟩ := List.map_eq_cons_iff.1 new
  obtain ⟨z, last, rfl, -, new⟩ := List.map_eq_cons_iff.1 new
  obtain rfl := List.map_eq_nil_iff.1 new
  have length := congrArg List.length old
  simp only [List.length_map, List.length_reverse] at length
  simp only [List.reverse_append, List.reverse_cons, List.reverse_nil, List.nil_append, List.cons_append] at g
  obtain ⟨-, g⟩ := g.top (by simp only [List.length_cons, List.length_reverse]; omega)
  exact ⟨y, (g.top (by simp only [List.length_cons, List.length_reverse]; omega)).1, second⟩

end Grown
end Dots

/-! ### Segments of a path -/

/-- Parts with a slash before each. -/
def divided (parts : List (List Char)) : List Char := parts.flatMap ('/' :: ·)

theorem join_eq (ss : List (List Char)) : join ss = divided (ss.map (escape pathExtra)) := by
  rw [join, divided, List.flatMap_map]

theorem join_append (xs ys : List (List Char)) : join (xs ++ ys) = join xs ++ join ys := List.flatMap_append

theorem divided_append (xs ys : List (List Char)) : divided (xs ++ ys) = divided xs ++ divided ys := List.flatMap_append

theorem divided_cons (s : List Char) (ss : List (List Char)) : divided (s :: ss) = '/' :: (s ++ divided ss) := rfl

theorem takeWhile_divided {s : List Char} (h : '/' ∉ s) (ss : List (List Char)) :
    (s ++ divided ss).takeWhile (· ≠ '/') = s ∧ (s ++ divided ss).dropWhile (· ≠ '/') = divided ss := by
  have free : ∀ c ∈ s, decide (c ≠ '/') = true := fun c hc => decide_eq_true fun slash => h (slash ▸ hc)
  rw [List.takeWhile_append_of_pos free, List.dropWhile_append_of_pos free]
  cases ss with
  | nil => exact ⟨List.append_nil s, rfl⟩
  | cons s ss => exact ⟨List.append_nil _, rfl⟩

theorem divided_injective {xs ys : List (List Char)} (hx : ∀ s ∈ xs, '/' ∉ s) (hy : ∀ s ∈ ys, '/' ∉ s)
    (h : divided xs = divided ys) : xs = ys := by
  induction xs generalizing ys with
  | nil =>
    cases ys with
    | nil => rfl
    | cons y ys => cases h
  | cons x xs ih =>
    cases ys with
    | nil => cases h
    | cons y ys =>
      rw [List.forall_mem_cons] at hx hy
      rw [divided_cons, divided_cons, List.cons.injEq] at h
      obtain ⟨first, rest⟩ := takeWhile_divided hx.1 xs
      obtain ⟨first', rest'⟩ := takeWhile_divided hy.1 ys
      rw [h.2] at first rest
      rw [← first, first', ih hx.2 hy.2 (rest.symm.trans rest')]

theorem not_mem_divided {c : Char} (slash : c ≠ '/') {ss : List (List Char)} (h : ∀ s ∈ ss, c ∉ s) :
    c ∉ divided ss := by
  rw [divided, List.mem_flatMap]
  rintro ⟨s, hs, hc⟩
  exact h s hs ((List.mem_cons.1 hc).resolve_left slash)

theorem slash_not_mem_escape {s : List Char} (h : '/' ∉ s) : '/' ∉ escape pathExtra s := fun among =>
  h (mem_escape among (by decide) (by decide)).1

/-- The segments behind others, with a slash in none of those, have none either. -/
theorem resolve_free {done : List (List Char)} (h : ∀ s ∈ done, '/' ∉ s) (cs : List Char) :
    ∀ s ∈ resolve done (segments .web cs), '/' ∉ s := by
  have grown : Grown (fun s => '/' ∉ s) done (resolve done (segments .web cs)).reverse :=
    .resolve (.kept (List.suffix_refl done)) List.not_mem_nil fun s hs _ among =>
      absurd ((mem_segments hs).2 _ among) (by decide)
  exact fun s hs => (grown.mem s (List.mem_reverse.2 hs)).elim (h s) id

theorem not_mem_join {c : Char} (slash : c ≠ '/') (unsafely : isUnsafe pathExtra c = true) (sign : c ≠ '%')
    (digit : Ident.hexDigit? c = none) (ss : List (List Char)) : c ∉ join ss := by
  rw [join_eq]
  refine not_mem_divided slash fun s hs among => ?_
  obtain ⟨t, -, rfl⟩ := List.mem_map.1 hs
  rw [(mem_escape among sign digit).2] at unsafely
  cases unsafely

/-! ### The path behind an address -/

theorem pathPart_slash {kept : List Char} (h : ∃ c ∈ kept, Kind.web.isSlash c = false) (more : List Char) :
    pathPart (kept ++ '/' :: more) = pathPart kept ++ '/' :: more := by
  obtain ⟨c, hc, stop⟩ := h
  obtain ⟨before, behind, rfl⟩ := List.append_of_mem hc
  rw [pathPart, pathPart, List.append_assoc, List.cons_append, dropWhile_stop stop, dropWhile_stop stop,
    ← List.cons_append, ← List.append_assoc, dropWhile_stop (by decide)]

/-- Nothing stands before the first slash of a path. -/
theorem pathPart_cases (body : List Char) :
    pathPart body = [] ∨ ∃ c rest, pathPart body = c :: rest ∧ Kind.web.isSlash c = true := by
  cases h : pathPart body with
  | nil => exact .inl rfl
  | cons c rest =>
    have stopped := List.head?_dropWhile_not (!Kind.web.isSlash ·) (body.dropWhile Kind.web.isSlash)
    rw [← pathPart, h] at stopped
    exact .inr ⟨c, rest, rfl, by simpa using stopped⟩

/-- The segments before a slash do not depend on what is behind it. -/
theorem pathOf_slash (body : List Char) : ∃ front : List (List Char), (∀ s ∈ front, '/' ∉ s) ∧ ∀ more,
    pathOf .web (pathPart body ++ '/' :: more) = join (resolve [] (front ++ segments .web more)) := by
  rcases pathPart_cases body with h | ⟨c, rest, h, slash⟩
  · exact ⟨[], by simp, fun more => by rw [h]; rfl⟩
  · refine ⟨segments .web rest, fun s hs among => absurd ((mem_segments hs).2 _ among) (by decide), fun more => ?_⟩
    rw [h, List.cons_append, pathOf, if_pos slash, segments_slash (by decide)]

/-- Behind the slash of an address with a host, a text adds its segments to those of the address. -/
theorem parse?_below {text : String} {u : Url} (h : parse? (text ++ "/") = .ok u)
    (web : Kind.ofScheme u.scheme = .web) (plain : ∀ c ∈ text.toList, isBody c = true) :
    ∃ done : List (List Char), (∀ s ∈ done, '/' ∉ s) ∧ u.path = join done.reverse ++ ['/'] ∧
      ∀ more : String, ∃ v, parse? (text ++ "/" ++ more) = .ok v ∧
        v.path = join (resolve done (segments .web ((ending more.toList).takeWhile isBody))) ∧
        v.query = queryOf ((ending more.toList).dropWhile isBody) := by
  obtain ⟨kept, among, behind⟩ := parse?_behind h web
  have body : ∀ c ∈ kept, isBody c = true := fun c hc => plain c (among c hc)
  have host := host_of_hosted body (behind "").2
  obtain ⟨front, free, joined⟩ := pathOf_slash kept
  have read (more : String) : ∃ v, parse? (text ++ "/" ++ more) = .ok v ∧
      v.path = join (resolve (front.foldl after []) (segments .web ((ending more.toList).takeWhile isBody))) ∧
      v.query = queryOf ((ending more.toList).dropWhile isBody) := by
    obtain ⟨parsed, hosted⟩ := behind more
    obtain ⟨v, ok, path, query⟩ := ofRest?_of_hosted web hosted
    refine ⟨v, parsed.trans ok, ?_, ?_⟩
    · rw [path, List.takeWhile_append_of_pos body, List.takeWhile_cons_of_pos (by decide), pathPart_slash host, joined,
        resolve_append _ _ (segments_ne_nil _ _)]
    · rw [query, List.dropWhile_append_of_pos body, List.dropWhile_cons_of_pos (by decide)]
  refine ⟨front.foldl after [], ?_, ?_, read⟩
  · have grown := Grown.foldl (.kept (List.suffix_refl [])) fun s hs _ => free s hs
    exact fun s hs => (grown.mem s hs).resolve_left List.not_mem_nil
  · -- the text may be empty
    obtain ⟨v, parsed, path, -⟩ := read ""
    rw [String.append_empty, h, Except.ok.injEq] at parsed
    have last : resolve (front.foldl after []) [[]] = (front.foldl after []).reverse ++ [[]] :=
      resolve_plain (by decide)
    rw [parsed, path]
    exact (congrArg join last).trans (join_append _ _)

end Reconciliation.Http.Url
