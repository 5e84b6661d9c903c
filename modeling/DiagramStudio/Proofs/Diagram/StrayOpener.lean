import DiagramStudio.Proofs.Diagram.SingleLine
import DiagramStudio.Proofs.Diagram.SpanParts

/-!
# Stray opening brackets

One opening bracket too many does not glue lines together. Brackets are paired by counting, so of a
balanced text with a stray opening bracket it is the outermost bracket open at that place, or the
stray one itself, that is never closed. A pass copies the text from there on, and the spans that
close before it are the ones that the balanced text had.

## Main definitions

- `Span.Closable`: the texts in which an opening delimiter before them is closed
- `Span.FirstUnclosed`: the first opening delimiter of a text that is never closed
-/

namespace DiagramStudio.Span

open Text

/-- True of the text behind an opening delimiter that is closed in it. -/
def Closable (d : Delimiter) (t : Text) : Prop :=
  ∃ body rest, t = body ++ d.closer :: rest ∧ Enclosed d body

/-- The first opening delimiter of `t` that is never closed stands between `front` and `rest`. -/
structure FirstUnclosed (d : Delimiter) (t front rest : Text) : Prop where
  split : t = front ++ d.opener :: rest
  earlier : ∀ u v, front = u ++ d.opener :: v → Closable d (v ++ d.opener :: rest)
  unclosed : ¬ Closable d rest

variable {d : Delimiter}

/-! ## One pass over a text in two parts -/

/-- A cut between spans separates what a pass writes. -/
theorem collapse_append {t : Text} (h : scan d .outside t = .outside) (u : Text) :
    collapse d (t ++ u) = collapse d t ++ collapse d u := by
  induction t using spans_induction d with
  | nil => rw [collapse_nil, List.nil_append, List.nil_append]
  | char c t hc ih =>
    rw [scan_cons_of_ne hc] at h
    rw [List.cons_append, collapse_cons_of_ne hc, collapse_cons_of_ne hc, ih h, List.cons_append]
  | span x r hx ih =>
    rw [scan_span hx] at h
    rw [List.cons_append, List.append_assoc, collapse_span hx, collapse_span hx, ih h,
      List.cons_append, List.append_assoc]
  | tail t ht =>
    rw [scan_opener] at h
    exact absurd h (scan_ne_outside opened_ne_outside ht)

/-- A pass writes as many newlines as it reads, if it reads none within a span. -/
theorem count_newline_collapse {t : Text} (h : SingleLine d t) :
    (collapse d t).count '\n' = t.count '\n' := by
  induction t using spans_induction d with
  | nil => rw [collapse_nil]
  | char c t hc ih =>
    rw [SingleLine, closedSpans_cons_of_ne hc] at h
    rw [collapse_cons_of_ne hc, List.count_cons, List.count_cons, ih h]
  | span x r hx ih =>
    rw [SingleLine, closedSpans_span hx, List.forall_mem_cons] at h
    have hread : x.count '\n' = 0 :=
      List.count_eq_zero.2 fun hn => h.1 (List.mem_cons_of_mem _ hn)
    have hwritten : (tidy d (.start d) x).count '\n' = 0 :=
      List.count_eq_zero.2 (newline_not_mem_tidy hx)
    rw [collapse_span hx, List.count_cons, List.count_cons, List.count_append, List.count_append,
      ih h.2, hread, hwritten]
  | tail t ht => rw [collapse_tail ht]

/-- A scan ends between spans, or it passes a delimiter that is never closed. -/
theorem scan_eq_outside_or (d : Delimiter) (t : Text) :
    scan d .outside t = .outside ∨ ∃ front rest, t = front ++ d.opener :: rest ∧
      scan d .outside front = .outside ∧ closing? d .opened rest = none := by
  induction t using spans_induction d with
  | nil => exact .inl rfl
  | char c t hc ih =>
    rcases ih with h | ⟨front, rest, rfl, hfront, hrest⟩
    · exact .inl ((scan_cons_of_ne hc t).trans h)
    · exact .inr ⟨c :: front, rest, rfl, (scan_cons_of_ne hc front).trans hfront, hrest⟩
  | span x r hx ih =>
    rcases ih with h | ⟨front, rest, rfl, hfront, hrest⟩
    · exact .inl ((scan_span hx r).trans h)
    · refine .inr ⟨d.opener :: (x ++ front), rest, ?_, (scan_span hx front).trans hfront, hrest⟩
      rw [List.cons_append, List.append_assoc]
  | tail t ht => exact .inr ⟨[], t, rfl, rfl, ht⟩

/-! ## Counting brackets -/

instance (d : Delimiter) (n : Nat) (body : Text) : Decidable (Balances d n body) :=
  decidable_of_iff (body.count d.closer = n + body.count d.opener ∧
    ∀ front ∈ body.inits, front.count d.closer ≤ n + front.count d.opener)
    (by simp only [Balances, List.mem_inits])

/-- Closing brackets in excess close what is open, and one of them a bracket before the text. -/
theorem exists_balances (hd : d ≠ .quote) {n : Nat} {t : Text}
    (h : n + t.count d.opener < t.count d.closer) :
    ∃ body rest, t = body ++ d.closer :: rest ∧ Balances d n body := by
  induction t generalizing n with
  | nil => simp at h
  | cons c t ih =>
    by_cases hc : c = d.closer
    · subst hc
      cases n with
      | zero => exact ⟨[], t, rfl, balances_nil.2 rfl⟩
      | succ n =>
        have hcount : n + t.count d.opener < t.count d.closer := by
          simp only [List.count_cons_self, List.count_cons_of_ne (opener_ne_closer hd).symm] at h
          omega
        obtain ⟨body, rest, rfl, hbody⟩ := ih hcount
        exact ⟨d.closer :: body, rest, rfl, (balances_cons_closer hd).2 ⟨by simp, hbody⟩⟩
    · by_cases ho : c = d.opener
      · subst ho
        have hcount : n + 1 + t.count d.opener < t.count d.closer := by
          simp only [List.count_cons_self, List.count_cons_of_ne (opener_ne_closer hd)] at h
          omega
        obtain ⟨body, rest, rfl, hbody⟩ := ih hcount
        exact ⟨d.opener :: body, rest, rfl, (balances_cons_opener hd).2 hbody⟩
      · simp only [List.count_cons_of_ne ho, List.count_cons_of_ne hc] at h
        obtain ⟨body, rest, rfl, hbody⟩ := ih h
        exact ⟨c :: body, rest, rfl, (balances_cons_of_ne ho hc).2 hbody⟩

/-- Where no prefix closes more brackets than it opens, a scan that ends between spans has closed
all it has opened. -/
theorem count_closer_eq (hd : d ≠ .quote) {t : Text} (h : scan d .outside t = .outside)
    (hfloor : ∀ front, front <+: t → front.count d.closer ≤ front.count d.opener) :
    t.count d.closer = t.count d.opener := by
  have hne := opener_ne_closer hd
  induction t using spans_induction d with
  | nil => rfl
  | char c t hc ih =>
    have hcloser : c ≠ d.closer := by
      rintro rfl
      have hfirst := hfloor [d.closer] ⟨t, rfl⟩
      simp [hne.symm] at hfirst
    rw [scan_cons_of_ne hc] at h
    rw [List.count_cons_of_ne hcloser, List.count_cons_of_ne hc]
    refine ih h fun front hfront => ?_
    have hcount := hfloor (c :: front) (List.cons_prefix_cons.2 ⟨rfl, hfront⟩)
    rwa [List.count_cons_of_ne hcloser, List.count_cons_of_ne hc] at hcount
  | span x r hx ih =>
    obtain ⟨body, rfl, hbody⟩ := closes_opened_iff.1 hx
    rw [Enclosed, if_neg hd] at hbody
    have hspan : ∀ y : Text,
        (d.opener :: (body ++ [d.closer] ++ y)).count d.closer =
            body.count d.opener + 1 + y.count d.closer ∧
          (d.opener :: (body ++ [d.closer] ++ y)).count d.opener =
            body.count d.opener + 1 + y.count d.opener := by
      intro y
      simp [hne, hne.symm, hbody.1]
      omega
    rw [scan_span hx] at h
    rw [(hspan r).1, (hspan r).2, ih h]
    intro front hfront
    have hcount := hfloor (d.opener :: (body ++ [d.closer] ++ front)) ?_
    · rw [(hspan front).1, (hspan front).2] at hcount
      omega
    · exact List.cons_prefix_cons.2 ⟨rfl, (List.prefix_append_right_inj _).2 hfront⟩
  | tail t ht =>
    rw [scan_opener] at h
    exact absurd h (scan_ne_outside opened_ne_outside ht)

/-! ## A stray bracket -/

theorem closing?_eq_none_iff_not_closable {t : Text} :
    closing? d .opened t = none ↔ ¬ Closable d t := by
  rw [closing?_eq_none_iff]
  constructor
  · rintro h ⟨body, rest, ht, hbody⟩
    exact h body rest ht hbody
  · intro h body rest ht hbody
    exact h ⟨body, rest, ht, hbody⟩

section

variable {u v : Text}

theorem Balances.prefix_le (h : Balances d 0 u) {front : Text} (hfront : front <+: u) :
    front.count d.closer ≤ front.count d.opener := by
  have hcount := h.2 front hfront
  rwa [Nat.zero_add] at hcount

/-- No prefix of a balanced text with a stray bracket closes more than it opens. -/
theorem prefix_le_of_stray (hd : d ≠ .quote) (h : Balances d 0 (u ++ v)) {front : Text}
    (hfront : front <+: u ++ d.opener :: v) : front.count d.closer ≤ front.count d.opener := by
  rcases prefix_append_cons_cases hfront with hu | ⟨rest, hv, rfl⟩
  · exact h.prefix_le (hu.trans (List.prefix_append u v))
  · have hcount := h.prefix_le ((List.prefix_append_right_inj u).2 hv)
    rw [List.count_append, List.count_append] at hcount ⊢
    rw [List.count_cons_self, List.count_cons_of_ne (opener_ne_closer hd)]
    omega

/-- Some delimiter is never closed, and what stands before it is closed before the stray one. -/
theorem exists_unclosed (hd : d ≠ .quote) (h : Balances d 0 (u ++ v)) :
    ∃ front rest, u ++ d.opener :: v = front ++ d.opener :: rest ∧ front <+: u ∧
      scan d .outside front = .outside ∧ closing? d .opened rest = none := by
  have hne := opener_ne_closer hd
  rcases scan_eq_outside_or d (u ++ d.opener :: v) with hout | ⟨front, rest, hsplit, hfront, hrest⟩
  · -- All would be closed, but there is one opening bracket more than closing ones.
    have hcount := count_closer_eq hd hout fun front => prefix_le_of_stray hd h
    have hbalance := h.1
    simp only [List.count_append, List.count_cons_self, List.count_cons_of_ne hne]
      at hcount hbalance
    omega
  · refine ⟨front, rest, hsplit, ?_, hfront, hrest⟩
    have hwhole : front <+: u ++ d.opener :: v := ⟨d.opener :: rest, hsplit.symm⟩
    rcases prefix_append_cons_cases hwhole with hu | ⟨w, hv, rfl⟩
    · exact hu
    · -- Without the stray bracket the text would close more than it opens here.
      have hcount := count_closer_eq hd hfront fun x hx =>
        prefix_le_of_stray hd h (hx.trans hwhole)
      have hle := h.prefix_le ((List.prefix_append_right_inj u).2 hv)
      simp only [List.count_append, List.count_cons_self, List.count_cons_of_ne hne] at hcount hle
      omega

/-- All delimiters in a text that a scan leaves between spans are closed. -/
theorem closable_of_scan (hd : d ≠ .quote) {w x : Text}
    (h : scan d .outside (w ++ d.opener :: x) = .outside)
    (hfloor : ∀ front, front <+: w ++ d.opener :: x →
      front.count d.closer ≤ front.count d.opener) (rest : Text) : Closable d (x ++ rest) := by
  have hcount := count_closer_eq hd h hfloor
  have hw := hfloor w (List.prefix_append w _)
  simp only [List.count_append, List.count_cons_self, List.count_cons_of_ne (opener_ne_closer hd)]
    at hcount
  obtain ⟨body, after, rfl, hbody⟩ := exists_balances hd (n := 0) (t := x) (by omega)
  refine ⟨body, after ++ rest, by simp, ?_⟩
  rwa [Enclosed, if_neg hd]

/-- A balanced text of single-line spans keeps its newlines when a stray opening bracket is put
into it, and from the first bracket that is not closed any more the pass copies the text. -/
theorem collapse_of_stray (hd : d ≠ .quote) (h : Balances d 0 (u ++ v))
    (hlines : SingleLine d (u ++ v)) :
    (collapse d (u ++ d.opener :: v)).count '\n' = (u ++ v).count '\n' ∧
      ∃ front rest, FirstUnclosed d (u ++ d.opener :: v) front rest ∧
        collapse d (u ++ d.opener :: v) = collapse d front ++ d.opener :: rest := by
  obtain ⟨front, rest, hsplit, ⟨w, rfl⟩, hfront, hrest⟩ := exists_unclosed hd h
  have hcollapse : collapse d (front ++ w ++ d.opener :: v) =
      collapse d front ++ d.opener :: rest := by
    rw [hsplit, collapse_append hfront, collapse_tail hrest]
  refine ⟨?_, front, rest, ⟨hsplit, ?_, ?_⟩, hcollapse⟩
  · have hfrontLines : SingleLine d front := by
      intro span hspan
      apply hlines
      rw [List.append_assoc, closedSpans_append hfront]
      exact List.mem_append_left _ hspan
    calc (collapse d (front ++ w ++ d.opener :: v)).count '\n'
        = (front ++ d.opener :: rest).count '\n' := by
          rw [hcollapse, List.count_append, count_newline_collapse hfrontLines, List.count_append]
      _ = (front ++ w ++ v).count '\n' := by
          rw [← hsplit, List.count_append,
            List.count_cons_of_ne (newline_ne_opener d).symm, ← List.count_append]
  · rintro x y rfl
    refine closable_of_scan hd hfront (fun front hx => ?_) _
    exact h.prefix_le (hx.trans ⟨w ++ v, by simp⟩)
  · exact closing?_eq_none_iff_not_closable.1 hrest

end

/-- A bracket put into a nested span leaves the outermost one open. -/
theorem collapse_of_stray_nested :
    Delimiter.square ≠ .quote ∧
      Balances .square 0 ("P[q  r]\nA[x [y".toList ++ "] z]\n\nB[c  d]".toList) ∧
      SingleLine .square ("P[q  r]\nA[x [y".toList ++ "] z]\n\nB[c  d]".toList) ∧
      (collapse .square ("P[q  r]\nA[x [y".toList ++ '[' :: "] z]\n\nB[c  d]".toList)).count '\n' =
        ("P[q  r]\nA[x [y".toList ++ "] z]\n\nB[c  d]".toList).count '\n' ∧
      ∃ front rest, FirstUnclosed .square
          ("P[q  r]\nA[x [y".toList ++ '[' :: "] z]\n\nB[c  d]".toList) front rest ∧
        collapse .square ("P[q  r]\nA[x [y".toList ++ '[' :: "] z]\n\nB[c  d]".toList) =
          collapse .square front ++ '[' :: rest := by
  have hne : Delimiter.square ≠ .quote := by decide
  have hbalances : Balances .square 0
      ("P[q  r]\nA[x [y".toList ++ "] z]\n\nB[c  d]".toList) := by decide +kernel
  have hlines : SingleLine .square
      ("P[q  r]\nA[x [y".toList ++ "] z]\n\nB[c  d]".toList) := by
    unfold SingleLine
    decide +kernel
  exact ⟨hne, hbalances, hlines, collapse_of_stray hne hbalances hlines⟩

end DiagramStudio.Span
