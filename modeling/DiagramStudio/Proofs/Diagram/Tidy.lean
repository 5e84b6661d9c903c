import DiagramStudio.Proofs.Diagram.Scan

/-!
# Tidied spans

A pass over the spans of one delimiter copies what stands between spans and tidies each closed
span by itself: `collapse_cons_of_ne`, `collapse_span` and `collapse_tail` say what the pass makes
of each part of a text. A span is `neat` when its blanks are lone spaces and its ampersands are
escaped. Tidying makes every closed span neat, and it leaves neat spans as they are, so a pass
changes nothing in a text with `NeatSpans`.
-/

namespace DiagramStudio.Span

open Text

namespace State

/-- The position of a state in the scan for delimiters. -/
def cursor (s : State) : Cursor := .inside (s.depth - 1) s.escaped

/-- What is written for a character that is not blank. -/
def written (s : State) (c : Char) (after : Option Char) : Text :=
  s.space ++
    if c = '&' ∧ s.escaped = false then Ampersand.spell (some s.before) after else [c]

/-- The state after a character that is not blank and does not close the span. -/
def next (d : Delimiter) (s : State) (c : Char) (after : Option Char) : State :=
  if s.escaped then .wrote c s.depth
  else if c = '\x5c' ∧ d = .quote then .escape c s.depth
  else if c = '&' then .wrote (Ampersand.lastOfSpell after) s.depth
  else if c = d.closer then .wrote c (s.depth - 1)
  else if c = d.opener then .wrote c (s.depth + 1)
  else .wrote c s.depth

end State

/-- The tidied text of a span from state `s` on. -/
def tidy (d : Delimiter) : State → Text → Text
  | _, [] => []
  | s, c :: t =>
    if isBlank c then tidy d s.blank t
    else s.written c t.head? ++ tidy d (s.next d c t.head?) t

/-- True of the rest of a span in which every blank is a lone space and every ampersand is
escaped, where `gap` tells that a blank stands directly before. -/
def neat (d : Delimiter) : Cursor → Bool → Text → Bool
  | _, _, [] => true
  | p, gap, c :: t =>
    if isBlank c then c == ' ' && !gap && neat d (p.next d c) true t
    else (c != '&' || p.escaped) && neat d (p.next d c) false t

/-- A text whose closed spans are neat. -/
def NeatSpans (d : Delimiter) (t : Text) : Prop :=
  ∀ x ∈ closedSpans d t, neat d .outside false x = true

/-! ## One pass, part by part -/

theorem ampersand_not_mem_marks : '&' ∉ marks := by decide

theorem ampersand_ne_closer (d : Delimiter) : '&' ≠ d.closer := by cases d <;> decide

theorem ampersand_ne_opener (d : Delimiter) : '&' ≠ d.opener := by cases d <;> decide

theorem backslash_ne_closer (d : Delimiter) : '\x5c' ≠ d.closer := by cases d <;> decide

theorem backslash_ne_opener (d : Delimiter) : '\x5c' ≠ d.opener := by cases d <;> decide

theorem State.blank_cursor {d : Delimiter} {s : State} {c : Char} (hc : isBlank c = true) :
    s.blank.cursor = s.cursor.next d c := by
  simp [cursor, State.blank, Cursor.next, hc]

theorem State.next_cursor_of_blank {d : Delimiter} {s : State} {c : Char}
    (hc : isBlank c = true) : s.cursor.next d c ≠ .outside := by
  rw [← State.blank_cursor hc]
  simp [cursor]

/-- A blank closes no span. -/
theorem Closes.of_blank {d : Delimiter} {s : State} {c : Char} {x : Text} (hb : isBlank c = true)
    (hx : Closes d s.cursor (c :: x)) : Closes d s.blank.cursor x := by
  cases hx with
  | last hl => exact absurd hl (State.next_cursor_of_blank hb)
  | cons _ hx => rwa [State.blank_cursor hb]

theorem State.next_gap (d : Delimiter) (s : State) (c : Char) (after : Option Char) :
    (s.next d c after).gap = false := by
  simp only [State.next]
  repeat' split
  all_goals rfl

/-- The states of a pass follow the cursors of a scan. -/
theorem State.next_cursor {d : Delimiter} {s : State} {c : Char} (hs : 0 < s.depth)
    (hb : isBlank c = false) (hc : s.cursor.next d c ≠ .outside) (after : Option Char) :
    0 < (s.next d c after).depth ∧ (s.next d c after).cursor = s.cursor.next d c := by
  obtain ⟨n | n, escaped, gap, last⟩ := s
  · simp at hs
  · simp only [cursor, Nat.add_sub_cancel, Cursor.next, hb, Bool.false_or, State.next] at hc ⊢
    split
    · simp [State.wrote]
    · split
      · simp [State.escape]
      · by_cases ha : c = '&'
        · simp [ha, ampersand_ne_closer, ampersand_ne_opener, State.wrote]
        · simp only [ha, if_false] at hc ⊢
          split
          · cases n with
            | zero => simp_all
            | succ n => simp [State.wrote]
          · split <;> simp [State.wrote]

/-- One character of a pass inside a span. -/
theorem inside_cons {d : Delimiter} {s : State} {c : Char} (hs : 0 < s.depth)
    (hb : isBlank c = false) (t : Text) :
    inside d s (c :: t) =
      if s.cursor.next d c = .outside then some (s.written c t.head? ++ collapse d t)
      else (inside d (s.next d c t.head?) t).map fun rest => s.written c t.head? ++ rest := by
  obtain ⟨n | n, escaped, gap, last⟩ := s
  · simp at hs
  · simp only [inside, State.cursor, Nat.add_sub_cancel, Cursor.next, State.next, State.written,
      hb, Bool.false_or, Bool.false_eq_true, if_false, collapse]
    cases escaped with
    | true => simp
    | false =>
      by_cases hq : c = '\x5c' ∧ d = .quote
      · simp [hq]
      · by_cases ha : c = '&'
        · simp [ha, ampersand_ne_closer, ampersand_ne_opener]
        · by_cases hl : c = d.closer
          · cases n <;> simp [hl, (ampersand_ne_closer d).symm, (backslash_ne_closer d).symm]
          · by_cases ho : c = d.opener
            · subst ho
              simp [ha, hl, (backslash_ne_opener d).symm]
            · simp [ha, hq, hl, ho]

theorem head?_append_of_closes {d : Delimiter} {p : Cursor} {x : Text} (h : Closes d p x)
    (r : Text) : (x ++ r).head? = x.head? := by
  cases x with
  | nil => exact absurd rfl h.ne_nil
  | cons => rfl

theorem State.written_closer {d : Delimiter} (s : State) (a b : Option Char) :
    s.written d.closer a = s.written d.closer b := by
  simp [written, (ampersand_ne_closer d).symm]

/-- Inside a span a pass tidies up to the closing delimiter, if there is one. -/
theorem inside_eq {d : Delimiter} {s : State} (hs : 0 < s.depth) (t : Text) :
    inside d s t =
      (closing? d s.cursor t).map fun parts => tidy d s parts.1 ++ collapse d parts.2 := by
  induction t generalizing s with
  | nil => simp [inside, closing?]
  | cons c t ih =>
    cases hb : isBlank c with
    | true =>
      rw [inside, if_pos hb, closing?, if_neg (State.next_cursor_of_blank hb),
        ih (s := s.blank) hs, State.blank_cursor hb, Option.map_map]
      congr 1
      funext parts
      simp [tidy, hb]
    | false =>
      rw [inside_cons hs hb, closing?]
      split
      · next hp =>
        obtain rfl := (eq_closer_of_next hp).1
        simp [tidy, isBlank_closer, s.written_closer t.head? none]
      · next hp =>
        obtain ⟨hs', hc⟩ := State.next_cursor hs hb hp t.head?
        rw [ih hs', hc]
        cases h : closing? d (s.cursor.next d c) t with
        | none => rfl
        | some parts =>
          obtain ⟨rfl, hx⟩ := closing?_eq_some_iff.1 h
          simp [tidy, hb, head?_append_of_closes hx]

@[simp]
theorem collapse_nil (d : Delimiter) : collapse d [] = [] := by simp [collapse, outside]

/-- Between spans a pass copies. -/
theorem collapse_cons_of_ne {d : Delimiter} {c : Char} (hc : c ≠ d.opener) (t : Text) :
    collapse d (c :: t) = c :: collapse d t := by
  rw [collapse, outside, if_neg hc, collapse]

theorem State.start_cursor (d : Delimiter) : (State.start d).cursor = .opened := rfl

theorem State.start_depth_pos (d : Delimiter) : 0 < (State.start d).depth := Nat.one_pos

/-- A closed span is tidied by itself. -/
theorem collapse_span {d : Delimiter} {x : Text} (hx : Closes d .opened x) (r : Text) :
    collapse d (d.opener :: (x ++ r)) = d.opener :: (tidy d (.start d) x ++ collapse d r) := by
  rw [collapse, outside, if_pos rfl, inside_eq (State.start_depth_pos d), State.start_cursor,
    hx.closing?]
  rfl

/-- A span that is never closed is copied with all that follows. -/
theorem collapse_tail {d : Delimiter} {t : Text} (ht : closing? d .opened t = none) :
    collapse d (d.opener :: t) = d.opener :: t := by
  rw [collapse, outside, if_pos rfl, inside_eq (State.start_depth_pos d), State.start_cursor, ht]
  rfl

/-- A pass keeps the first character of a text. -/
theorem head?_collapse (d : Delimiter) (t : Text) : (collapse d t).head? = t.head? := by
  induction t using spans_induction d with
  | nil => simp
  | char c t hc _ => simp [collapse_cons_of_ne hc]
  | span x r hx _ => simp [collapse_span hx]
  | tail t ht => simp [collapse_tail ht]

/-! ## Neat spans -/

@[simp]
theorem neat_nil (d : Delimiter) (p : Cursor) (gap : Bool) : neat d p gap [] = true := rfl

theorem neat_cons_of_not_blank {c : Char} (hc : isBlank c = false) (d : Delimiter) (p : Cursor)
    (gap : Bool) (t : Text) :
    neat d p gap (c :: t) = ((c != '&' || p.escaped) && neat d (p.next d c) false t) := by
  simp [neat, hc]

theorem neat_cons_of_blank {c : Char} (hc : isBlank c = true) (d : Delimiter) (p : Cursor)
    (gap : Bool) (t : Text) :
    neat d p gap (c :: t) = (c == ' ' && !gap && neat d (p.next d c) true t) := by
  simp [neat, hc]

/-- A gap before matters only to a text that starts with a blank. -/
theorem neat_gap {d : Delimiter} {p : Cursor} {t : Text}
    (ht : ∀ c, t.head? = some c → isBlank c = false) (gap gap' : Bool) :
    neat d p gap t = neat d p gap' t := by
  cases t with
  | nil => rfl
  | cons c t =>
    have hc := ht c rfl
    simp [neat_cons_of_not_blank hc]

/-- Tidying leaves a neat span as it is. -/
theorem tidy_of_neat {d : Delimiter} {s : State} {x : Text} (hs : 0 < s.depth)
    (hx : Closes d s.cursor x) (hn : neat d s.cursor s.gap x = true) :
    tidy d s x = s.space ++ x := by
  induction x generalizing s with
  | nil => exact absurd rfl hx.ne_nil
  | cons c x ih =>
    cases hb : isBlank c with
    | true =>
      rw [neat_cons_of_blank hb, ← State.blank_cursor hb] at hn
      simp only [Bool.and_eq_true, beq_iff_eq, Bool.not_eq_eq_eq_not, Bool.not_true] at hn
      -- The blank is a lone space, and the gap writes it back.
      obtain ⟨⟨rfl, hg⟩, hn⟩ := hn
      rw [tidy, if_pos hb, ih (s := s.blank) hs (hx.of_blank hb) hn]
      simp [State.space, State.blank, hg]
    | false =>
      rw [neat_cons_of_not_blank hb] at hn
      simp only [Bool.and_eq_true, Bool.or_eq_true, bne_iff_ne] at hn
      obtain ⟨ha, hn⟩ := hn
      have hw : s.written c x.head? = s.space ++ [c] := by
        rcases ha with ha | ha
        · simp [State.written, ha]
        · have : s.escaped = true := ha
          simp [State.written, this]
      rw [tidy, if_neg (by simp [hb]), hw]
      cases hx with
      | last => simp [tidy]
      | cons hp hx =>
        obtain ⟨hs', hc⟩ := State.next_cursor hs hb hp x.head?
        have hg := State.next_gap d s c x.head?
        rw [ih hs' (hc ▸ hx) (by rw [hc, hg]; exact hn)]
        simp [State.space, hg]

/-- A pass changes nothing where all closed spans are neat. -/
theorem collapse_of_neatSpans {d : Delimiter} {t : Text} (h : NeatSpans d t) :
    collapse d t = t := by
  induction t using spans_induction d with
  | nil => simp
  | char c t hc ih =>
    rw [collapse_cons_of_ne hc, ih]
    simpa [NeatSpans, closedSpans_cons_of_ne hc] using h
  | span x r hx ih =>
    rw [NeatSpans, closedSpans_span hx, List.forall_mem_cons] at h
    obtain ⟨hn, hr⟩ := h
    have hn' : neat d .opened false x = true := by
      rw [neat_cons_of_not_blank (isBlank_opener d), Cursor.next, if_pos rfl] at hn
      exact (Bool.and_eq_true_iff.1 hn).2
    rw [collapse_span hx, ih hr, tidy_of_neat (State.start_depth_pos d) hx hn']
    rfl
  | tail t ht => exact collapse_tail ht

end DiagramStudio.Span
