import DiagramStudio.Proofs.Diagram.Rework

/-!
# Passes over spans

A pass over the spans of one delimiter respells its text (`rework_collapse`): it shortens runs of
blanks and spells out ampersands, and changes nothing else. All closed spans of its result are
neat (`neatSpans_collapse`), and stay so under the passes that follow.
-/

namespace DiagramStudio.Span

open Text Ampersand

/-- What is written for a character itself, without the space of a pending gap. -/
def State.spelled (s : State) (c : Char) (after : Option Char) : Text :=
  if c = '&' ∧ s.escaped = false then spell (some s.before) after else [c]

theorem State.written_eq (s : State) (c : Char) (after : Option Char) :
    s.written c after = s.space ++ s.spelled c after := rfl

theorem State.next_last (d : Delimiter) (s : State) (c : Char) (after : Option Char) :
    (s.next d c after).last =
      if c = '&' ∧ s.escaped = false then lastOfSpell after else c := by
  simp only [State.next]
  split
  · next he => simp [State.wrote, he]
  · next he =>
    split
    · next hc => simp [State.escape, hc]
    · split
      · next ha => simp [State.wrote, ha, he]
      · next ha =>
        simp only [ha, false_and, if_false]
        repeat' split
        all_goals rfl

theorem Rework.refl (R : Change) (b : Bool) (t : Text) : Rework R b t t := by
  induction t generalizing b with
  | nil => exact .nil b
  | cons c t ih => exact .keep b c (ih _)

/-- An ampersand closes no span. -/
theorem Closes.of_ampersand {d : Delimiter} {p : Cursor} {x : Text} (hp : p ≠ .outside)
    (h : Closes d p ('&' :: x)) : Closes d p.settled x := by
  have hn := p.next_of_not_mem_marks d ampersand_not_mem_marks
  cases h with
  | last hl => simp [hn, hp] at hl
  | cons _ hx => rwa [hn] at hx

/-! ## A pass respells its text -/

section

variable {d : Delimiter} {s : State} {c : Char}

/-- What is written for a character respells it. -/
theorem rework_spelled {after : Option Char} {t u : Text}
    (hafter : c = '&' → s.escaped = false → touches after = touches t.head?)
    (rest : Rework respell (isAlphanumeric (s.next d c after).last) t u) :
    Rework respell (touches (some s.before)) (c :: t) (s.spelled c after ++ u) := by
  rw [State.next_last] at rest
  by_cases ha : c = '&' ∧ s.escaped = false
  · rw [if_pos ha] at rest
    rw [State.spelled, if_pos ha]
    obtain ⟨rfl, he⟩ := ha
    refine .change (x := ['&']) (.word _ _ rfl (hafter rfl he)) ?_
    rw [getLast?_spell]
    exact rest
  · rw [if_neg ha] at rest
    rw [State.spelled, if_neg ha]
    exact .keep _ c rest

/-- A pending gap is a run of blanks that becomes one space. -/
theorem rework_written {after : Option Char} {w t u : Text} (hw : ∀ c ∈ w, isBlank c = true)
    (hgap : s.gap = true ↔ w ≠ [])
    (h : Rework respell (touches (some s.before)) (c :: t) (s.spelled c after ++ u)) :
    Rework respell (isAlphanumeric s.last) (w ++ c :: t) (s.written c after ++ u) := by
  rw [State.written_eq, List.append_assoc, State.space]
  rw [State.before] at h
  cases hg : s.gap with
  | true =>
    rw [hg, if_pos rfl] at h
    have hspace : touches (some ' ') = touches [' '].getLast? := rfl
    exact .change (.space (hgap.1 hg) hw) (hspace ▸ h)
  | false =>
    have hnil : w = [] := by
      apply Classical.byContradiction
      intro hne
      simp [hgap.2 hne] at hg
    subst hnil
    rw [hg] at h
    exact h

/-- Tidying respells a span, here with the run of blanks `w` of a pending gap. -/
theorem rework_tidy {x : Text} (hs : 0 < s.depth) (hx : Closes d s.cursor x) {w : Text}
    (hw : ∀ c ∈ w, isBlank c = true) (hgap : s.gap = true ↔ w ≠ []) {r u : Text}
    (hr : ∀ b, Rework respell b r u) :
    Rework respell (isAlphanumeric s.last) (w ++ (x ++ r)) (tidy d s x ++ u) := by
  induction x generalizing s w with
  | nil => exact absurd rfl hx.ne_nil
  | cons c x ih =>
    cases hb : isBlank c with
    | true =>
      -- A blank joins the gap; it cannot close the span.
      have := ih (s := s.blank) hs (hx.of_blank hb) (blank_append_singleton hw hb)
        (by simp [State.blank])
      simpa [tidy, hb, State.blank] using this
    | false =>
      have rest : Rework respell (isAlphanumeric (s.next d c x.head?).last) (x ++ r)
          (tidy d (s.next d c x.head?) x ++ u) := by
        cases hx with
        | last => simpa [tidy] using hr _
        | cons hp hx =>
          obtain ⟨hs', hc⟩ := State.next_cursor hs hb hp x.head?
          have hnext := State.next_gap d s c x.head?
          exact ih (w := []) hs' (hc ▸ hx) (by simp) (by simp [hnext])
      have hafter : c = '&' → s.escaped = false → touches x.head? = touches (x ++ r).head? := by
        rintro rfl -
        have hx' := Closes.of_ampersand (by simp [State.cursor]) hx
        exact congrArg touches (head?_append_of_closes hx' r).symm
      rw [tidy, if_neg (by simp [hb]), List.append_assoc]
      exact rework_written hw hgap (rework_spelled hafter rest)

end

/-- A pass over spans respells its text. -/
theorem rework_collapse (d : Delimiter) (b : Bool) (t : Text) :
    Rework respell b t (collapse d t) := by
  induction t using spans_induction d generalizing b with
  | nil =>
    rw [collapse_nil]
    exact .nil b
  | char c t hc ih =>
    rw [collapse_cons_of_ne hc]
    exact .keep b c (ih _)
  | span x r hx ih =>
    rw [collapse_span hx]
    exact .keep b _ (rework_tidy (State.start_depth_pos d) (w := []) hx (by simp)
      (by simp [State.start]) ih)
  | tail t ht =>
    rw [collapse_tail ht]
    exact .refl _ b _

theorem Rework.edit {b : Bool} {t u : Text} (h : Rework respell b t u) : Rework edit b t u :=
  h.mono fun _ _ _ _ => Or.inl

/-! ## The result of a pass is neat -/

section

variable {d : Delimiter} {s : State} {c : Char}

/-- What is written for a character is neat: an ampersand is spelled out unless it is escaped. -/
theorem neat_spelled (hb : isBlank c = false) {x u : Text}
    (rest : ∀ gap, (gap = true → isAlphanumeric (s.next d c x.head?).last = false ∧
      ∀ c', x.head? = some c' → isBlank c' = false) → neat d (s.cursor.next d c) gap u = true)
    {gap : Bool} (hgap : gap = true → isAlphanumeric s.before = false) :
    neat d s.cursor gap (s.spelled c x.head? ++ u) = true := by
  by_cases ha : c = '&' ∧ s.escaped = false
  · have hlast := s.next_last d c x.head?
    rw [if_pos ha] at hlast
    rw [State.spelled, if_pos ha]
    obtain ⟨rfl, he⟩ := ha
    apply neat_spell_append
    · simpa [touches] using hgap
    · -- The space after the word stands before a letter or a digit, so no blank follows it.
      rw [← s.cursor.next_of_not_mem_marks d ampersand_not_mem_marks]
      refine rest _ fun h => ⟨?_, not_blank_of_touches h⟩
      rw [hlast, lastOfSpell, if_pos h]
      exact isAlphanumeric_space
  · rw [State.spelled, if_neg ha, List.singleton_append, neat_cons_of_not_blank hb,
      rest false (by simp), Bool.and_true]
    by_cases hc : c = '&'
    · have he : s.escaped = true := by simpa [hc] using ha
      simp [State.cursor, Cursor.escaped, he]
    · simp [hc]

/-- A pending gap is written as a lone space. -/
theorem neat_written {p : Cursor} {gap : Bool} {after : Option Char} {u : Text}
    (hp : if s.gap then p.settled = s.cursor else p = s.cursor)
    (hg : gap = true → s.gap = false ∧ isAlphanumeric s.last = false)
    (h : ∀ gap, (gap = true → isAlphanumeric s.before = false) →
      neat d s.cursor gap (s.spelled c after ++ u) = true) :
    neat d p gap (s.written c after ++ u) = true := by
  rw [State.written_eq, List.append_assoc]
  cases hsg : s.gap with
  | false =>
    simp only [hsg, Bool.false_eq_true, if_false] at hp
    rw [State.space, hsg, hp]
    exact h gap fun hgap => by simpa [State.before, hsg] using (hg hgap).2
  | true =>
    simp only [hsg, if_true] at hp
    have hgap : gap = false := by
      cases gap with
      | false => rfl
      | true => simp [(hg rfl).1] at hsg
    rw [State.space, hsg, if_pos rfl, List.singleton_append, neat_space, hp, hgap]
    exact h true fun _ => by simp [State.before, hsg, isAlphanumeric_space]

/-- Tidied text is neat, here from a cursor `p` that may still wait for the space of a pending
gap. -/
theorem neat_tidy {x : Text} (hs : 0 < s.depth) (hx : Closes d s.cursor x) {p : Cursor}
    {gap : Bool} (hp : if s.gap then p.settled = s.cursor else p = s.cursor)
    (hg : gap = true → s.gap = false ∧ isAlphanumeric s.last = false ∧
      ∀ c, x.head? = some c → isBlank c = false) :
    neat d p gap (tidy d s x) = true := by
  induction x generalizing s p gap with
  | nil => exact absurd rfl hx.ne_nil
  | cons c x ih =>
    cases hb : isBlank c with
    | true =>
      have hgap : gap = false := by
        cases gap with
        | false => rfl
        | true => simp [(hg rfl).2.2 c rfl] at hb
      have hsettled : p.settled = s.blank.cursor := by
        show p.settled = s.cursor.settled
        cases hsg : s.gap with
        | false =>
          simp only [hsg, Bool.false_eq_true, if_false] at hp
          rw [hp]
        | true =>
          simp only [hsg, if_true] at hp
          rw [← hp, Cursor.settled_settled]
      rw [tidy, if_pos hb]
      exact ih (s := s.blank) hs (hx.of_blank hb) (by simpa [State.blank] using hsettled)
        (by simp [hgap])
    | false =>
      have rest : ∀ gap', (gap' = true → isAlphanumeric (s.next d c x.head?).last = false ∧
          ∀ c', x.head? = some c' → isBlank c' = false) →
          neat d (s.cursor.next d c) gap' (tidy d (s.next d c x.head?) x) = true := by
        intro gap' hg'
        cases hx with
        | last => rfl
        | cons hcur hx =>
          obtain ⟨hs', hc⟩ := State.next_cursor hs hb hcur x.head?
          have hnext := State.next_gap d s c x.head?
          exact ih hs' (hc ▸ hx) (by simp [hnext, hc]) fun h => ⟨hnext, hg' h⟩
      rw [tidy, if_neg (by simp [hb])]
      exact neat_written hp (fun h => ⟨(hg h).1, (hg h).2.1⟩) fun _ h => neat_spelled hb rest h

end

theorem Rework.eq_nil {R : Change} (hR : Inert R) {b : Bool} {u : Text} (h : Rework R b [] u) :
    u = [] := by
  generalize ht : ([] : Text) = t at h
  cases h with
  | nil => rfl
  | keep => simp at ht
  | change hr =>
    have := (hR _ _ _ _ hr).1.2
    simp_all

theorem rework_tidy_span {d : Delimiter} {x : Text} (hx : Closes d .opened x) :
    Rework respell (isAlphanumeric d.opener) x (tidy d (.start d) x) := by
  have h := rework_tidy (State.start_depth_pos d) (w := []) hx (by simp) (by simp [State.start])
    (r := []) (u := []) fun b => .nil b
  simpa [State.start] using h

theorem neat_tidy_span {d : Delimiter} {x : Text} (hx : Closes d .opened x) :
    neat d .opened false (tidy d (.start d) x) = true :=
  neat_tidy (State.start_depth_pos d) hx (by rfl) (by simp)

theorem newline_not_mem_tidy {d : Delimiter} {x : Text} (hx : Closes d .opened x) :
    '\n' ∉ tidy d (.start d) x :=
  newline_not_mem_of_neat (neat_tidy_span hx)

/-- Tidying does not move the closing delimiter. -/
theorem closes_tidy {d : Delimiter} {x : Text} (hx : Closes d .opened x) :
    Closes d .opened (tidy d (.start d) x) := by
  have hc := (rework_tidy_span hx).closing inert_respell d opened_ne_outside
  have hx' := hx.closing? []
  rw [List.append_nil] at hx'
  simp only [hx'] at hc
  obtain ⟨y, s, b, hy, -, hs⟩ := hc
  obtain rfl := hs.eq_nil inert_respell
  obtain ⟨ht, hy⟩ := closing?_eq_some_iff.1 hy
  simp only [List.append_nil] at ht
  rwa [ht]

/-- All closed spans are neat after a pass. -/
theorem neatSpans_collapse (d : Delimiter) (t : Text) : NeatSpans d (collapse d t) := by
  induction t using spans_induction d with
  | nil => simp [NeatSpans]
  | char c t hc ih =>
    rw [collapse_cons_of_ne hc, NeatSpans, closedSpans_cons_of_ne hc]
    exact ih
  | span x r hx ih =>
    rw [collapse_span hx, NeatSpans, closedSpans_span (closes_tidy hx), List.forall_mem_cons]
    refine ⟨?_, ih⟩
    rw [neat_cons_of_not_blank (isBlank_opener d), Cursor.next, if_pos rfl]
    simpa [(ampersand_ne_opener d).symm] using neat_tidy_span hx
  | tail t ht => simp [collapse_tail ht, NeatSpans, closedSpans_tail ht]

end DiagramStudio.Span
