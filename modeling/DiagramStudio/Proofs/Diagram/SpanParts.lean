import DiagramStudio.Proofs.Diagram.Braces
import DiagramStudio.Proofs.Diagram.Collapse

/-!
# The parts of a text

A text splits in one way into characters outside spans, closed spans and at most one tail that is
never closed. A pass over the spans of a delimiter writes it part by part: characters and the tail
as they are, and each closed span with its runs of blanks and its ampersands respelled.

None of this is said with the states of a pass. A closed span is a body whose delimiters are
balanced, or in quotes one whose quotes are all escaped, and a character is respelled by what stands
before it in the span, what has been written for that, and what comes next.

## Main definitions

- `Span.Enclosed`: the bodies of closed spans
- `Span.Split`: the parts of a text
- `Span.respelled`: a span as a pass writes it
-/

namespace DiagramStudio.Span

open Text Ampersand

/-! ## Closed spans -/

/-- True when the character after `front` is escaped: in quotes, when an odd number of backslashes
stands directly before it, the last of which is not escaped itself. -/
def escapes (d : Delimiter) (front : Text) : Bool :=
  decide (d = .quote) && (front.reverse.takeWhile (· == '\x5c')).length % 2 == 1

/-- A text that closes `n` delimiters that are open before it, each one it opens and no other. -/
def Balances (d : Delimiter) (n : Nat) (body : Text) : Prop :=
  body.count d.closer = n + body.count d.opener ∧
    ∀ front, front <+: body → front.count d.closer ≤ n + front.count d.opener

/-- The texts that the opening delimiter of a span and the one that closes it stand around. -/
def Enclosed (d : Delimiter) (body : Text) : Prop :=
  if d = .quote then
    escapes d body = false ∧ ∀ front rest, body = front ++ d.closer :: rest → escapes d front = true
  else Balances d 0 body

/-- What a text consists of. -/
inductive Part
  /-- A character outside all spans. -/
  | outside (c : Char)
  /-- A closed span, without its delimiters. -/
  | span (body : Text)
  /-- What follows an opening delimiter that is never closed. -/
  | tail (rest : Text)
  deriving Repr, DecidableEq

/-- `Split d t parts` says that `t` consists of `parts`. -/
inductive Split (d : Delimiter) : Text → List Part → Prop
  | nil : Split d [] []
  | outside {c : Char} {t : Text} {parts : List Part} :
      c ≠ d.opener → Split d t parts → Split d (c :: t) (.outside c :: parts)
  | span {body t : Text} {parts : List Part} : Enclosed d body → Split d t parts →
      Split d (d.opener :: (body ++ d.closer :: t)) (.span body :: parts)
  | tail {t : Text} : (∀ body rest, t = body ++ d.closer :: rest → ¬ Enclosed d body) →
      Split d (d.opener :: t) [.tail t]

/-! ## Written parts -/

/-- What is written for the character `c` of a span, where `front` stands before it, `written` has
been written for that, and `after` comes next. A run of blanks becomes one space, and an ampersand
that is not escaped the word it stands for. -/
def respelling (d : Delimiter) (front written : Text) (c : Char) (after : Option Char) : Text :=
  if isBlank c then
    if front.getLast?.any isBlank then [] else [' ']
  else if c = '&' ∧ escapes d front = false then spell written.getLast? after
  else [c]

/-- What is written for the rest of a span. -/
def respelled (d : Delimiter) (front written : Text) : Text → Text
  | [] => []
  | c :: rest =>
    respelling d front written c rest.head? ++
      respelled d (front ++ [c]) (written ++ respelling d front written c rest.head?) rest

/-- What is written for a part. -/
def Part.written (d : Delimiter) : Part → Text
  | outside c => [c]
  | span body => d.opener :: respelled d [] [d.opener] (body ++ [d.closer])
  | tail rest => d.opener :: rest

/-! ## The bodies of closed spans -/

theorem escapes_append_singleton (d : Delimiter) (front : Text) (c : Char) :
    escapes d (front ++ [c]) = (decide (d = .quote) && c == '\x5c' && !escapes d front) := by
  rw [escapes, escapes, List.reverse_append, List.reverse_singleton, List.singleton_append,
    List.takeWhile_cons]
  by_cases hd : d = .quote
  · by_cases hc : c = '\x5c'
    · simp only [hd, hc, beq_self_eq_true, if_true, List.length_cons]
      grind
    · simp [hc]
  · simp [hd]

theorem closes_cons_iff {d : Delimiter} {p : Cursor} {c : Char} {x : Text} :
    Closes d p (c :: x) ↔
      if p.next d c = .outside then x = [] else Closes d (p.next d c) x := by
  constructor
  · intro h
    cases h with
    | last hc => rw [if_pos hc]
    | cons hc hx => rwa [if_neg hc]
  · intro h
    split at h
    · next hc =>
      subst h
      exact .last hc
    · next hc => exact .cons hc h

theorem exists_cons_eq_append_singleton {P : Text → Prop} {c e : Char} {x : Text} :
    (∃ body, c :: x = body ++ [e] ∧ P body) ↔
      (c = e ∧ x = [] ∧ P []) ∨ ∃ body, x = body ++ [e] ∧ P (c :: body) := by
  constructor
  · rintro ⟨body, h, hP⟩
    cases body with
    | nil =>
      obtain ⟨rfl, rfl⟩ := List.cons.inj h
      exact .inl ⟨rfl, rfl, hP⟩
    | cons b body =>
      obtain ⟨rfl, rfl⟩ := List.cons.inj h
      exact .inr ⟨body, rfl, hP⟩
  · rintro (⟨rfl, rfl, hP⟩ | ⟨body, rfl, hP⟩)
    · exact ⟨[], rfl, hP⟩
    · exact ⟨c :: body, rfl, hP⟩

section Brackets

variable {d : Delimiter}

theorem opener_ne_closer (hd : d ≠ .quote) : d.opener ≠ d.closer := by
  cases d with
  | quote => exact absurd rfl hd
  | _ => decide

theorem balances_nil {n : Nat} : Balances d n [] ↔ n = 0 := by
  simp [Balances, eq_comm]

theorem balances_cons_closer (hd : d ≠ .quote) {n : Nat} {body : Text} :
    Balances d n (d.closer :: body) ↔ n ≠ 0 ∧ Balances d (n - 1) body := by
  have hne := (opener_ne_closer hd).symm
  cases n with
  | zero =>
    -- The first prefix closes a delimiter that was never opened.
    simp only [ne_eq, not_true_eq_false, false_and, iff_false, Balances, not_and]
    intro _ h
    have := h [d.closer] (List.cons_prefix_cons.2 ⟨rfl, List.nil_prefix⟩)
    simp [hne] at this
  | succ n =>
    have hcount : ∀ a b : Nat, a + 1 ≤ n + 1 + b ↔ a ≤ n + b := by omega
    have htotal : ∀ a b : Nat, a + 1 = n + 1 + b ↔ a = n + b := by omega
    simp [Balances, Braces.forall_prefix_cons, hne, hcount, htotal]

theorem balances_cons_opener (hd : d ≠ .quote) {n : Nat} {body : Text} :
    Balances d n (d.opener :: body) ↔ Balances d (n + 1) body := by
  have hcomm : ∀ a : Nat, n + 1 + a = n + (a + 1) := by omega
  simp [Balances, Braces.forall_prefix_cons, opener_ne_closer hd, hcomm]

theorem balances_cons_of_ne {c : Char} (ho : c ≠ d.opener) (hc : c ≠ d.closer) {n : Nat}
    {body : Text} : Balances d n (c :: body) ↔ Balances d n body := by
  simp [Balances, Braces.forall_prefix_cons, ho, hc]

/-- Outside quotes nothing is escaped, so a scan only counts. -/
theorem next_bracket (hd : d ≠ .quote) (n : Nat) (c : Char) :
    (Cursor.inside n false).next d c =
      if c = d.closer then
        if n = 0 then .outside else .inside (n - 1) false
      else if c = d.opener then .inside (n + 1) false
      else .inside n false := by
  cases hb : isBlank c with
  | true =>
    have ho : c ≠ d.opener := fun h => by simp [h, isBlank_opener] at hb
    have hc : c ≠ d.closer := fun h => by simp [h, isBlank_closer] at hb
    simp [Cursor.next, hb, ho, hc]
  | false => cases n <;> simp [Cursor.next, hb, hd]

/-- A scan of brackets ends at the first one that closes more than was opened. -/
theorem closes_inside_iff (hd : d ≠ .quote) {n : Nat} {x : Text} :
    Closes d (.inside n false) x ↔ ∃ body, x = body ++ [d.closer] ∧ Balances d n body := by
  induction x generalizing n with
  | nil =>
    constructor
    · intro h
      exact absurd rfl h.ne_nil
    · rintro ⟨body, h, -⟩
      simp at h
  | cons c x ih =>
    rw [closes_cons_iff, next_bracket hd, exists_cons_eq_append_singleton, balances_nil]
    by_cases hc : c = d.closer
    · subst hc
      simp only [if_true, balances_cons_closer hd]
      cases n with
      | zero => simp
      | succ n => simp [ih]
    · by_cases ho : c = d.opener
      · subst ho
        simp [hc, ih, balances_cons_opener hd]
      · simp [hc, ho, ih, balances_cons_of_ne ho hc]

end Brackets

theorem next_quote_eq (front : Text) (c : Char) :
    (Cursor.inside 0 (escapes .quote front)).next .quote c =
      if c = '\x22' ∧ escapes .quote front = false then .outside
      else .inside 0 (escapes .quote (front ++ [c])) := by
  have hcloser : Delimiter.quote.closer = '\x22' := rfl
  have hopener : Delimiter.quote.opener = '\x22' := rfl
  rw [escapes_append_singleton, Cursor.next, hcloser, hopener]
  cases he : escapes .quote front with
  | true => simp
  | false =>
    cases hb : isBlank c with
    | true =>
      have hq : c ≠ '\x22' := by
        rintro rfl
        exact absurd hb (by decide)
      have hs : c ≠ '\x5c' := by
        rintro rfl
        exact absurd hb (by decide)
      simp [hq, hs]
    | false =>
      by_cases hs : c = '\x5c'
      · simp [hs]
      · by_cases hq : c = '\x22' <;> simp [hs, hq]

/-- A scan of quotes ends at the first quote that is not escaped. -/
theorem closes_quote_iff {front x : Text} :
    Closes .quote (.inside 0 (escapes .quote front)) x ↔
      ∃ body, x = body ++ ['\x22'] ∧ escapes .quote (front ++ body) = false ∧
        ∀ u v, body = u ++ '\x22' :: v → escapes .quote (front ++ u) = true := by
  induction x generalizing front with
  | nil =>
    constructor
    · intro h
      exact absurd rfl h.ne_nil
    · rintro ⟨body, h, -⟩
      simp at h
  | cons c x ih =>
    have hcons : ∀ body : Text,
        (∀ u v, c :: body = u ++ '\x22' :: v → escapes .quote (front ++ u) = true) ↔
          (c = '\x22' → escapes .quote front = true) ∧
            ∀ u v, body = u ++ '\x22' :: v → escapes .quote (front ++ [c] ++ u) = true := by
      intro body
      constructor
      · intro h
        refine ⟨fun hc => by simpa using h [] body (by simp [hc]), fun u v hbody => ?_⟩
        simpa using h (c :: u) v (by simp [hbody])
      · rintro ⟨hc, h⟩ u v hbody
        cases u with
        | nil =>
          rw [List.append_nil]
          exact hc (List.cons.inj hbody).1
        | cons c' u =>
          rw [List.cons_append] at hbody
          obtain ⟨rfl, hrest⟩ := List.cons.inj hbody
          simpa using h u v hrest
    rw [closes_cons_iff, next_quote_eq, exists_cons_eq_append_singleton]
    by_cases hc : c = '\x22' ∧ escapes .quote front = false
    · rw [if_pos hc, if_pos rfl]
      obtain ⟨rfl, he⟩ := hc
      simp [he, hcons]
    · rw [if_neg hc, if_neg (by simp), ih]
      simp only [hcons, List.append_assoc, List.singleton_append, List.append_nil]
      grind

/-- The closed spans are the enclosed bodies with the closing delimiter behind them. -/
theorem closes_opened_iff {d : Delimiter} {x : Text} :
    Closes d .opened x ↔ ∃ body, x = body ++ [d.closer] ∧ Enclosed d body := by
  by_cases hd : d = .quote
  · subst hd
    exact @closes_quote_iff [] x
  · simp only [Enclosed, if_neg hd]
    exact closes_inside_iff hd

theorem closing?_enclosed {d : Delimiter} {body : Text} (h : Enclosed d body) (t : Text) :
    closing? d .opened (body ++ d.closer :: t) = some (body ++ [d.closer], t) := by
  have hx := (closes_opened_iff.2 ⟨body, rfl, h⟩).closing? t
  rwa [List.append_assoc, List.singleton_append] at hx

theorem closing?_eq_none_iff {d : Delimiter} {t : Text} :
    closing? d .opened t = none ↔
      ∀ body rest, t = body ++ d.closer :: rest → ¬ Enclosed d body := by
  constructor
  · rintro h body rest rfl hbody
    simp [closing?_enclosed hbody] at h
  · intro h
    rw [Option.eq_none_iff_forall_ne_some]
    rintro ⟨x, rest⟩ hx
    obtain ⟨rfl, hcloses⟩ := closing?_eq_some_iff.1 hx
    obtain ⟨body, rfl, hbody⟩ := closes_opened_iff.1 hcloses
    exact h body rest (by simp) hbody

/-! ## The split of a text -/

/-- A text splits in one way only. -/
theorem Split.unique {d : Delimiter} {t : Text} {parts parts' : List Part} (h : Split d t parts)
    (h' : Split d t parts') : parts' = parts := by
  induction h generalizing parts' with
  | nil =>
    cases h'
    rfl
  | outside hc _ ih =>
    cases h' with
    | outside _ h' => rw [ih h']
    | span => exact absurd rfl hc
    | tail => exact absurd rfl hc
  | @span body t parts hbody _ ih =>
    -- What closes the span is found by a search, which has one result.
    have hfound := closing?_enclosed hbody t
    generalize hrest : body ++ d.closer :: t = rest at h' hfound
    cases h' with
    | outside hc _ => exact absurd rfl hc
    | span hbody' h' =>
      rw [closing?_enclosed hbody', Option.some.injEq, Prod.mk.injEq, List.append_left_inj]
        at hfound
      obtain ⟨rfl, rfl⟩ := hfound
      rw [ih h']
    | tail hnone => exact absurd hbody (hnone _ _ hrest.symm)
  | @tail t hnone =>
    generalize hrest : t = rest at h'
    cases h' with
    | outside hc _ => exact absurd rfl hc
    | span hbody' _ => exact absurd hbody' (hnone _ _ hrest)
    | tail => rfl

/-! ## A pass writes the parts -/

theorem State.next_escaped {d : Delimiter} {s : State} {front : Text}
    (hfront : s.escaped = escapes d front) (c : Char) (after : Option Char) :
    (s.next d c after).escaped = escapes d (front ++ [c]) := by
  rw [escapes_append_singleton, ← hfront]
  simp only [State.next]
  split
  · next he => simp [State.wrote, he]
  · next he =>
    split
    · next hc => simp [State.escape, hc, he]
    · next hc =>
      have hescape : (decide (d = .quote) && c == '\x5c') = false := by
        simp only [Bool.and_eq_false_iff, decide_eq_false_iff_not, beq_eq_false_iff_ne]
        exact not_and_or.1 fun h => hc h.symm
      rw [hescape]
      repeat' split
      all_goals rfl

/-- A pass inside a span writes each character as it is respelled. The space of a pending gap is
written late, here before the rest. -/
theorem tidy_eq_respelled {d : Delimiter} {s : State} {x front written : Text} (hs : 0 < s.depth)
    (hx : Closes d s.cursor x) (hescaped : s.escaped = escapes d front)
    (hgap : s.gap = front.getLast?.any isBlank) (hlast : written.getLast? = some s.before) :
    tidy d s x = s.space ++ respelled d front written x := by
  induction x generalizing s front written with
  | nil => exact absurd rfl hx.ne_nil
  | cons c x ih =>
    cases hb : isBlank c with
    | true =>
      have hpiece : respelling d front written c x.head? = if s.gap then [] else [' '] := by
        rw [respelling, if_pos hb, hgap]
      have hspace : s.space ++ respelling d front written c x.head? = s.blank.space := by
        rw [hpiece, State.space]
        cases s.gap <;> rfl
      have hescaped' : s.blank.escaped = escapes d (front ++ [c]) := by
        have hc : c ≠ '\x5c' := by
          rintro rfl
          exact absurd hb (by decide)
        simp [escapes_append_singleton, hc, State.blank]
      have hlast' : (written ++ respelling d front written c x.head?).getLast? =
          some s.blank.before := by
        rw [hpiece]
        cases hg : s.gap with
        | true => simpa [State.before, State.blank, hg] using hlast
        | false => simp [State.before, State.blank]
      rw [tidy, if_pos hb, respelled, ← List.append_assoc, hspace]
      exact ih (s := s.blank) hs (hx.of_blank hb) hescaped' (by simp [State.blank, hb]) hlast'
    | false =>
      have hpiece : respelling d front written c x.head? = s.spelled c x.head? := by
        rw [respelling, if_neg (by simp [hb]), State.spelled, ← hescaped, hlast]
      have hnext := State.next_gap d s c x.head?
      have hlast' : (written ++ respelling d front written c x.head?).getLast? =
          some (s.next d c x.head?).before := by
        rw [hpiece, State.before, hnext, if_neg Bool.false_ne_true, State.next_last, State.spelled]
        split
        · rw [List.getLast?_append_of_ne_nil _ (spell_ne_nil _ _), getLast?_spell]
        · simp
      rw [tidy, if_neg (by simp [hb]), State.written_eq, respelled, ← hpiece, List.append_assoc]
      congr 2
      cases hx with
      | last => rfl
      | cons hp hx =>
        obtain ⟨hs', hcursor⟩ := State.next_cursor hs hb hp x.head?
        rw [ih hs' (hcursor ▸ hx) (State.next_escaped hescaped c x.head?) (by simp [hnext, hb])
          hlast', State.space, hnext]
        rfl

theorem tidy_start {d : Delimiter} {body : Text} (h : Enclosed d body) :
    tidy d (.start d) (body ++ [d.closer]) =
      respelled d [] [d.opener] (body ++ [d.closer]) := by
  refine tidy_eq_respelled (State.start_depth_pos d) ?_ ?_ rfl rfl
  · exact closes_opened_iff.2 ⟨body, rfl, h⟩
  · simp [State.start, escapes]

/-- A pass over the spans of a delimiter writes the parts of a text, one after the other. -/
theorem collapse_eq_flatMap_written (d : Delimiter) (t : Text) :
    ∃ parts, Split d t parts ∧ (∀ parts', Split d t parts' → parts' = parts) ∧
      collapse d t = parts.flatMap (Part.written d) := by
  have hsplit : ∃ parts, Split d t parts ∧ collapse d t = parts.flatMap (Part.written d) := by
    induction t using spans_induction d with
    | nil => exact ⟨[], .nil, collapse_nil d⟩
    | char c t hc ih =>
      obtain ⟨parts, hparts, hwritten⟩ := ih
      refine ⟨.outside c :: parts, .outside hc hparts, ?_⟩
      rw [collapse_cons_of_ne hc, hwritten]
      rfl
    | span x r hx ih =>
      obtain ⟨parts, hparts, hwritten⟩ := ih
      obtain ⟨body, rfl, hbody⟩ := closes_opened_iff.1 hx
      refine ⟨.span body :: parts, ?_, ?_⟩
      · rw [List.append_assoc, List.singleton_append]
        exact .span hbody hparts
      · rw [collapse_span hx, tidy_start hbody, hwritten]
        rfl
    | tail t ht =>
      refine ⟨[.tail t], .tail (closing?_eq_none_iff.1 ht), ?_⟩
      rw [collapse_tail ht]
      exact (List.append_nil _).symm
  obtain ⟨parts, hparts, hwritten⟩ := hsplit
  exact ⟨parts, hparts, fun _ h => hparts.unique h, hwritten⟩

/-- Blanks end an escape, and the word for an ampersand keeps off letters only. -/
example : Part.written .quote (.span "a&\x5c&\x5c &&\n b".toList) =
    "\x22a and\x5c&\x5c and and b\x22".toList := by decide +kernel

end DiagramStudio.Span
