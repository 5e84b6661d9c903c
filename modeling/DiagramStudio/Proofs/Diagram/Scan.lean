import DiagramStudio.Diagram.Span

/-!
# Scanning for spans

A scan for the spans of one delimiter reads a text from left to right with a `Cursor`. The cursor
counts the open delimiters, never below zero, and knows in quoted text whether a backslash stands
directly before. `closedSpans` lists the closed spans that such a scan meets, and
`spans_induction` takes a text apart into the characters between spans, the closed spans and the
tail that is never closed.

## Main definitions

- `Cursor`, `Cursor.next`, `scan`: where a scan stands
- `closing?`, `Closes`: the rest of an open span, as a search and as a predicate
- `closedSpans`: the closed spans of a text, delimiters included
-/

namespace DiagramStudio.Span

open Text

/-- Where a scan for the spans of one delimiter stands. -/
inductive Cursor
  /-- No delimiter is open. -/
  | outside
  /-- One delimiter is open, and `further` ones besides. -/
  | inside (further : Nat) (escaped : Bool)
  deriving Repr, DecidableEq

namespace Cursor

/-- Right after the delimiter that opens a span. -/
def opened : Cursor := .inside 0 false

/-- The cursor after one more character. A blank ends an escape, and an escaped character neither
opens nor closes. -/
def next (d : Delimiter) : Cursor → Char → Cursor
  | .outside, c => if c = d.opener then opened else .outside
  | .inside n escaped, c =>
    if isBlank c || escaped then .inside n false
    else if c = '\x5c' ∧ d = .quote then .inside n true
    else if c = d.closer then
      match n with
      | 0 => .outside
      | n + 1 => .inside n false
    else if c = d.opener then .inside (n + 1) false
    else .inside n false

/-- True when a backslash escapes the next character. -/
def escaped : Cursor → Bool
  | .outside => false
  | .inside _ escaped => escaped

/-- The cursor after a text without delimiters and backslashes. -/
def settled : Cursor → Cursor
  | .outside => .outside
  | .inside n _ => .inside n false

end Cursor

/-- The cursor after a text. -/
def scan (d : Delimiter) (p : Cursor) (t : Text) : Cursor := t.foldl (Cursor.next d) p

/-- What is left of the span that is open at `p`, up to its closing delimiter, and what follows. -/
def closing? (d : Delimiter) (p : Cursor) : Text → Option (Text × Text)
  | [] => none
  | c :: t =>
    if p.next d c = .outside then some ([c], t)
    else (closing? d (p.next d c) t).map fun parts => (c :: parts.1, parts.2)

/-- The closed spans met from `p` on, when `read` has been read of the span that is open. -/
def spansFrom (d : Delimiter) : Cursor → Text → Text → List Text
  | _, _, [] => []
  | .outside, _, c :: t => spansFrom d (Cursor.outside.next d c) [c] t
  | p, read, c :: t =>
    if p.next d c = .outside then (read ++ [c]) :: spansFrom d .outside [] t
    else spansFrom d (p.next d c) (read ++ [c]) t

/-- The closed spans of a text, in order and with their delimiters. -/
def closedSpans (d : Delimiter) (t : Text) : List Text := spansFrom d .outside [] t

/-- `Closes d p x` says that `x` runs from `p` to the delimiter that closes the open span. -/
inductive Closes (d : Delimiter) : Cursor → Text → Prop
  | last {p : Cursor} {c : Char} : p.next d c = .outside → Closes d p [c]
  | cons {p : Cursor} {c : Char} {x : Text} :
    p.next d c ≠ .outside → Closes d (p.next d c) x → Closes d p (c :: x)

/-! ## Closing a span -/

theorem Closes.ne_nil {d : Delimiter} {p : Cursor} {x : Text} (h : Closes d p x) : x ≠ [] := by
  cases h <;> simp

/-- The search finds exactly the texts that close the span. -/
theorem closing?_eq_some_iff {d : Delimiter} {p : Cursor} {t x r : Text} :
    closing? d p t = some (x, r) ↔ t = x ++ r ∧ Closes d p x := by
  induction t generalizing p x with
  | nil =>
    simp only [closing?, reduceCtorEq, false_iff, not_and]
    intro h hx
    exact hx.ne_nil (List.append_eq_nil_iff.1 h.symm).1
  | cons c t ih =>
    rw [closing?]
    split
    · next hc =>
      constructor
      · rintro ⟨⟩
        exact ⟨rfl, .last hc⟩
      · rintro ⟨h, hx⟩
        cases hx with
        | last => simp_all
        | cons hne => simp_all
    · next hc =>
      rw [Option.map_eq_some_iff]
      constructor
      · rintro ⟨⟨y, s⟩, hy, h⟩
        obtain ⟨rfl, rfl⟩ := Prod.mk.inj h
        obtain ⟨ht, hy⟩ := ih.1 hy
        exact ⟨congrArg (c :: ·) ht, .cons hc hy⟩
      · rintro ⟨h, hx⟩
        cases hx with
        | last hl => simp_all
        | @cons _ _ y hne hy =>
          obtain ⟨rfl, rfl⟩ := List.cons.inj h
          exact ⟨(y, r), ih.2 ⟨rfl, hy⟩, rfl⟩

theorem Closes.closing? {d : Delimiter} {p : Cursor} {x : Text} (h : Closes d p x) (r : Text) :
    closing? d p (x ++ r) = some (x, r) :=
  closing?_eq_some_iff.2 ⟨rfl, h⟩

/-- After its closing delimiter a span is left. -/
theorem Closes.scan {d : Delimiter} {p : Cursor} {x : Text} (h : Closes d p x) :
    scan d p x = .outside := by
  induction h with
  | last hc => simpa [Span.scan] using hc
  | cons _ _ ih => simpa [Span.scan] using ih

theorem scan_append (d : Delimiter) (p : Cursor) (t u : Text) :
    scan d p (t ++ u) = scan d (scan d p t) u :=
  List.foldl_append ..

/-- Only the closing delimiter leaves a span. -/
theorem eq_closer_of_next {d : Delimiter} {n : Nat} {e : Bool} {c : Char}
    (h : (Cursor.inside n e).next d c = .outside) : c = d.closer ∧ e = false := by
  simp only [Cursor.next] at h
  split at h
  · simp at h
  · next hb =>
    split at h
    · simp at h
    · split at h
      · next hc => simp_all
      · split at h <;> simp at h

/-! ## Texts between spans -/

/-- The delimiters and the backslash, which alone move a cursor. -/
def marks : List Char := ['[', ']', '(', ')', '{', '}', '\x22', '\x5c']

/-- A text without delimiters and backslashes. -/
def Idle (t : Text) : Prop := ∀ c ∈ t, c ∉ marks

theorem opener_mem_marks (d : Delimiter) : d.opener ∈ marks := by cases d <;> decide

theorem closer_mem_marks (d : Delimiter) : d.closer ∈ marks := by cases d <;> decide

theorem isBlank_of_mem_marks {c : Char} (h : c ∈ marks) : isBlank c = false := by
  have hall : marks.all (fun c => !isBlank c) = true := by decide
  simpa using List.all_eq_true.1 hall c h

theorem isBlank_opener (d : Delimiter) : isBlank d.opener = false :=
  isBlank_of_mem_marks (opener_mem_marks d)

theorem isBlank_closer (d : Delimiter) : isBlank d.closer = false :=
  isBlank_of_mem_marks (closer_mem_marks d)

theorem not_mem_marks_of_isBlank {c : Char} (h : isBlank c = true) : c ∉ marks := by
  intro hc
  simp [isBlank_of_mem_marks hc] at h

theorem idle_of_blank {t : Text} (h : ∀ c ∈ t, isBlank c = true) : Idle t :=
  fun c hc => not_mem_marks_of_isBlank (h c hc)

theorem Idle.append {t u : Text} (ht : Idle t) (hu : Idle u) : Idle (t ++ u) := by
  intro c hc
  rcases List.mem_append.1 hc with hc | hc
  · exact ht c hc
  · exact hu c hc

theorem Cursor.next_of_not_mem_marks (d : Delimiter) (p : Cursor) {c : Char} (hc : c ∉ marks) :
    p.next d c = p.settled := by
  have ho : c ≠ d.opener := fun h => hc (h ▸ opener_mem_marks d)
  have hl : c ≠ d.closer := fun h => hc (h ▸ closer_mem_marks d)
  have hb : c ≠ '\x5c' := fun h => hc (h ▸ by decide)
  cases p <;> simp [next, settled, ho, hl, hb]

@[simp]
theorem Cursor.settled_settled (p : Cursor) : p.settled.settled = p.settled := by
  cases p <;> rfl

@[simp]
theorem Cursor.settled_eq_outside_iff {p : Cursor} : p.settled = .outside ↔ p = .outside := by
  cases p <;> simp [settled]

theorem scan_of_idle (d : Delimiter) (p : Cursor) {t : Text} (ht : Idle t) (hne : t ≠ []) :
    scan d p t = p.settled := by
  induction t generalizing p with
  | nil => exact absurd rfl hne
  | cons c t ih =>
    have hc := p.next_of_not_mem_marks d (ht c (List.mem_cons_self ..))
    cases t with
    | nil => simpa [scan] using hc
    | cons c' t =>
      have := ih p.settled (fun x hx => ht x (List.mem_cons_of_mem c hx)) (by simp)
      simpa [scan, hc] using this

/-- No text without delimiters closes a span. -/
theorem closing?_idle_append (d : Delimiter) {p : Cursor} (hp : p ≠ .outside) {t : Text}
    (ht : Idle t) (hne : t ≠ []) (u : Text) :
    closing? d p (t ++ u) =
      (closing? d p.settled u).map fun parts => (t ++ parts.1, parts.2) := by
  induction t generalizing p with
  | nil => exact absurd rfl hne
  | cons c t ih =>
    have hc := p.next_of_not_mem_marks d (ht c (List.mem_cons_self ..))
    have hs : p.settled ≠ .outside := by simpa using hp
    rw [List.cons_append, closing?, hc, if_neg hs]
    cases t with
    | nil => rfl
    | cons c' t =>
      rw [ih hs (fun x hx => ht x (List.mem_cons_of_mem c hx)) (by simp),
        Cursor.settled_settled, Option.map_map]
      rfl

/-! ## The closed spans of a text -/

theorem spansFrom_outside (d : Delimiter) (read t : Text) :
    spansFrom d .outside read t = closedSpans d t := by
  cases t <;> rfl

@[simp]
theorem closedSpans_nil (d : Delimiter) : closedSpans d [] = [] := rfl

theorem closedSpans_cons_of_ne {d : Delimiter} {c : Char} (hc : c ≠ d.opener) (t : Text) :
    closedSpans d (c :: t) = closedSpans d t := by
  rw [closedSpans, spansFrom, Cursor.next, if_neg hc, spansFrom_outside]

/-- From inside a span, either the span closes or no closed span follows. -/
theorem spansFrom_inside (d : Delimiter) {p : Cursor} (hp : p ≠ .outside) (read t : Text) :
    spansFrom d p read t =
      match closing? d p t with
      | some (x, r) => (read ++ x) :: closedSpans d r
      | none => [] := by
  induction t generalizing p read with
  | nil => cases p <;> rfl
  | cons c t ih =>
    cases p with
    | outside => exact absurd rfl hp
    | inside n e =>
      rw [spansFrom, closing?]
      split
      · rfl
      · next hc =>
        rw [ih hc]
        cases closing? d ((Cursor.inside n e).next d c) t <;> simp
      · simp

theorem opened_ne_outside : Cursor.opened ≠ .outside := by decide

theorem closedSpans_opener (d : Delimiter) (t : Text) :
    closedSpans d (d.opener :: t) =
      match closing? d .opened t with
      | some (x, r) => (d.opener :: x) :: closedSpans d r
      | none => [] := by
  rw [closedSpans, spansFrom, Cursor.next, if_pos rfl, spansFrom_inside d opened_ne_outside]
  rfl

/-- A text is taken apart into the characters between spans, the closed spans, and the tail from
a delimiter that is never closed. -/
theorem spans_induction (d : Delimiter) {motive : Text → Prop} (nil : motive [])
    (char : ∀ c t, c ≠ d.opener → motive t → motive (c :: t))
    (span : ∀ x r, Closes d .opened x → motive r → motive (d.opener :: (x ++ r)))
    (tail : ∀ t, closing? d .opened t = none → motive (d.opener :: t)) (t : Text) : motive t := by
  match t with
  | [] => exact nil
  | c :: t =>
    by_cases hc : c = d.opener
    · subst hc
      cases h : closing? d .opened t with
      | none => exact tail t h
      | some parts =>
        obtain ⟨ht, hx⟩ := closing?_eq_some_iff.1 h
        have hlen : parts.2.length ≤ t.length := by simp [ht]
        rw [ht]
        exact span _ _ hx (spans_induction d nil char span tail parts.2)
    · exact char c t hc (spans_induction d nil char span tail t)
termination_by t.length
decreasing_by all_goals simp only [List.length_cons]; omega

theorem closedSpans_span {d : Delimiter} {x : Text} (hx : Closes d .opened x) (r : Text) :
    closedSpans d (d.opener :: (x ++ r)) = (d.opener :: x) :: closedSpans d r := by
  rw [closedSpans_opener, hx.closing?]

example : closedSpans .round "a) (b (c)\n d) (e".toList = ["(b (c)\n d)".toList] := by decide

theorem closedSpans_tail {d : Delimiter} {t : Text} (ht : closing? d .opened t = none) :
    closedSpans d (d.opener :: t) = [] := by
  rw [closedSpans_opener, ht]

theorem closedSpans_idle_append (d : Delimiter) {t : Text} (ht : Idle t) (u : Text) :
    closedSpans d (t ++ u) = closedSpans d u := by
  induction t with
  | nil => rfl
  | cons c t ih =>
    have hc : c ≠ d.opener := by
      rintro rfl
      exact ht _ (List.mem_cons_self ..) (opener_mem_marks d)
    rw [List.cons_append, closedSpans_cons_of_ne hc,
      ih fun x hx => ht x (List.mem_cons_of_mem c hx)]

theorem closing?_append_idle {d : Delimiter} {p : Cursor} (hp : p ≠ .outside) {t : Text}
    (ht : closing? d p t = none) {u : Text} (hu : Idle u) : closing? d p (t ++ u) = none := by
  induction t generalizing p with
  | nil =>
    cases u with
    | nil => rfl
    | cons c u =>
      have h := closing?_idle_append d hp hu (by simp) []
      simpa [closing?] using h
  | cons c t ih =>
    rw [closing?] at ht
    split at ht
    · simp at ht
    · next hc =>
      rw [List.cons_append, closing?, if_neg hc, ih hc (by simpa using ht)]
      rfl

theorem closedSpans_append_idle (d : Delimiter) (t : Text) {u : Text} (hu : Idle u) :
    closedSpans d (t ++ u) = closedSpans d t := by
  induction t using spans_induction d with
  | nil => simpa using closedSpans_idle_append d hu []
  | char c t hc ih =>
    rw [List.cons_append, closedSpans_cons_of_ne hc, closedSpans_cons_of_ne hc, ih]
  | span x r hx ih =>
    rw [List.cons_append, List.append_assoc, closedSpans_span hx, closedSpans_span hx, ih]
  | tail t ht =>
    rw [List.cons_append, closedSpans_tail ht,
      closedSpans_tail (closing?_append_idle opened_ne_outside ht hu)]

end DiagramStudio.Span
