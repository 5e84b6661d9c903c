import DiagramStudio.Proofs.Diagram.Repair

/-!
# Labels on a single line

Every pass leaves the closed spans of its delimiter on a single line, and the other passes keep
them so. Alignment comes later and drops the lines before the directive. If these leave a
delimiter open, the lines that follow are read from outside of a span that the passes took for
open, and they may hold closed spans that no pass ever tidied. Quotes do not nest, so for them
nothing that follows an open quote is ever closed.

## Main definitions

- `Span.SingleLine`: closed spans without newlines
- `Layout.preamble`: the lines that alignment drops
-/

namespace DiagramStudio

open Text Dialect

namespace Span

/-- A text whose closed spans hold no newline. -/
def SingleLine (d : Delimiter) (t : Text) : Prop := ∀ span ∈ closedSpans d t, '\n' ∉ span

variable {d : Delimiter}

theorem singleLine_of_neatSpans {t : Text} (h : NeatSpans d t) : SingleLine d t :=
  fun span hspan => newline_not_mem_of_neat (h span hspan)

/-! ## Spans of a text in two parts -/

theorem closing?_append {p : Cursor} {t : Text} (h : closing? d p t = none) (u : Text) :
    closing? d p (t ++ u) =
      (closing? d (scan d p t) u).map fun parts => (t ++ parts.1, parts.2) := by
  induction t generalizing p with
  | nil => simp [scan]
  | cons c t ih =>
    rw [closing?] at h
    split at h
    · simp at h
    · next hc =>
      rw [List.cons_append, closing?, if_neg hc, ih (by simpa using h), Option.map_map]
      rfl

theorem scan_ne_outside {p : Cursor} (hp : p ≠ .outside) {t : Text} (h : closing? d p t = none) :
    scan d p t ≠ .outside := by
  induction t generalizing p with
  | nil => exact hp
  | cons c t ih =>
    rw [closing?] at h
    split at h
    · simp at h
    · next hc => exact ih hc (by simpa using h)

theorem scan_cons_of_ne {c : Char} (hc : c ≠ d.opener) (t : Text) :
    scan d .outside (c :: t) = scan d .outside t := by
  have hnext : Cursor.outside.next d c = .outside := by rw [Cursor.next, if_neg hc]
  rw [scan, List.foldl_cons, hnext, scan]

theorem scan_opener (t : Text) : scan d .outside (d.opener :: t) = scan d .opened t := by
  have hnext : Cursor.outside.next d d.opener = .opened := by rw [Cursor.next, if_pos rfl]
  rw [scan, List.foldl_cons, hnext, scan]

theorem scan_span {x : Text} (hx : Closes d .opened x) (r : Text) :
    scan d .outside (d.opener :: (x ++ r)) = scan d .outside r := by
  rw [scan_opener, scan_append, hx.scan]

/-- A cut between spans separates the closed spans. -/
theorem closedSpans_append {t : Text} (h : scan d .outside t = .outside) (u : Text) :
    closedSpans d (t ++ u) = closedSpans d t ++ closedSpans d u := by
  induction t using spans_induction d with
  | nil => rfl
  | char c t hc ih =>
    rw [scan_cons_of_ne hc] at h
    rw [List.cons_append, closedSpans_cons_of_ne hc, closedSpans_cons_of_ne hc, ih h]
  | span x r hx ih =>
    rw [scan_span hx] at h
    rw [List.cons_append, List.append_assoc, closedSpans_span hx, closedSpans_span hx, ih h]
    rfl
  | tail t ht =>
    rw [scan_opener] at h
    exact absurd h (scan_ne_outside opened_ne_outside ht)

/-- A span that is open at the cut and is closed later is a closed span. -/
theorem mem_closedSpans_of_closing? {t u x r : Text} (h : scan d .outside t ≠ .outside)
    (hu : closing? d (scan d .outside t) u = some (x, r)) :
    ∃ z, z ++ x ∈ closedSpans d (t ++ u) := by
  induction t using spans_induction d with
  | nil => exact absurd rfl h
  | char c t hc ih =>
    rw [scan_cons_of_ne hc] at h hu
    rw [List.cons_append, closedSpans_cons_of_ne hc]
    exact ih h hu
  | span y s hy ih =>
    rw [scan_span hy] at h hu
    obtain ⟨z, hz⟩ := ih h hu
    rw [List.cons_append, List.append_assoc, closedSpans_span hy]
    exact ⟨z, List.mem_cons_of_mem _ hz⟩
  | tail t ht =>
    rw [scan_opener] at hu
    have hclosing := closing?_append ht u
    rw [hu] at hclosing
    rw [List.cons_append, closedSpans_opener, hclosing]
    exact ⟨d.opener :: t, List.mem_cons_self ..⟩

/-! ## Quotes do not nest -/

theorem next_quote (e : Bool) (c : Char) :
    (Cursor.inside 0 e).next .quote c = .outside ∨
      ∃ e', (Cursor.inside 0 e).next .quote c = .inside 0 e' := by
  simp only [Cursor.next]
  split
  · exact .inr ⟨_, rfl⟩
  · split
    · exact .inr ⟨_, rfl⟩
    · split
      · exact .inl rfl
      · next hc => exact .inr ⟨false, by rw [if_neg (show c ≠ Delimiter.quote.opener from hc)]⟩

/-- At most one quote is open at a time. -/
theorem scan_quote (t : Text) :
    scan .quote .outside t = .outside ∨ ∃ e, scan .quote .outside t = .inside 0 e := by
  have all : ∀ p : Cursor, (p = .outside ∨ ∃ e, p = .inside 0 e) →
      scan .quote p t = .outside ∨ ∃ e, scan .quote p t = .inside 0 e := by
    induction t with
    | nil => exact fun p hp => hp
    | cons c t ih =>
      intro p hp
      refine ih (p.next .quote c) ?_
      rcases hp with rfl | ⟨e, rfl⟩
      · rw [Cursor.next]
        split
        · exact .inr ⟨false, rfl⟩
        · exact .inl rfl
      · exact next_quote e c
  exact all .outside (.inl rfl)

/-- After a quote that is never closed no quoted span is closed, also when the text is read from
outside of that quote: the first quote that it holds was escaped. -/
theorem closedSpans_of_unclosed_quote {e : Bool} {t : Text}
    (h : closing? .quote (.inside 0 e) t = none) : closedSpans .quote t = [] := by
  induction t generalizing e with
  | nil => rfl
  | cons c t ih =>
    rw [closing?] at h
    split at h
    · simp at h
    · next hc =>
      rw [Option.map_eq_none_iff] at h
      by_cases hquote : c = Delimiter.quote.opener
      · -- The quote was escaped, and both readings go on from an open quote.
        subst hquote
        have he : e = true := by
          cases e with
          | true => rfl
          | false => exact absurd rfl hc
        subst he
        exact closedSpans_tail h
      · rw [closedSpans_cons_of_ne hquote]
        rcases next_quote e c with hout | ⟨e', hin⟩
        · exact absurd hout hc
        · rw [hin] at h
          exact ih h

/-! ## Dropped lines -/

theorem newline_mem_of_dropLines {b : Bool} {t u : Text} (h : Rework dropLines b t u) :
    '\n' ∈ t ↔ '\n' ∈ u := by
  induction h with
  | nil => rfl
  | keep b c _ ih => simp [ih]
  | change hr =>
    obtain ⟨-, hn, rfl⟩ := hr
    simp [hn]

theorem newlines_of_forall₂ {xs ys : List Text} (h : List.Forall₂ (Rework dropLines false) xs ys) :
    (∀ x ∈ xs, '\n' ∉ x) ↔ ∀ y ∈ ys, '\n' ∉ y := by
  induction h with
  | nil => simp
  | cons hxy _ ih =>
    rw [List.forall_mem_cons, List.forall_mem_cons, ih, newline_mem_of_dropLines hxy]

/-- Dropping ends neither joins nor splits spans. -/
theorem singleLine_balance (d : Delimiter) (dialect : Option Dialect) (pieces : List Text) :
    SingleLine d (joinLines (Block.balance dialect pieces)) ↔ SingleLine d (joinLines pieces) := by
  have h := (Repair.rework_balance dialect pieces false).closedSpans inert_dropLines d
  rw [Repair.closedSpans_terminated, Repair.closedSpans_terminated] at h
  exact (newlines_of_forall₂ h).symm

theorem newline_ne_opener (d : Delimiter) : '\n' ≠ d.opener := by cases d <;> decide

/-- No span that is open at the end of a line is closed later in a text of single-line spans. -/
theorem closing?_of_singleLine {t u : Text} (h : SingleLine d (t ++ '\n' :: u))
    (ht : scan d .outside t ≠ .outside) :
    closing? d (scan d .outside t) ('\n' :: u) = none := by
  cases hclosing : closing? d (scan d .outside t) ('\n' :: u) with
  | none => rfl
  | some parts =>
    obtain ⟨z, hz⟩ := mem_closedSpans_of_closing? ht hclosing
    obtain ⟨hu, hx⟩ := closing?_eq_some_iff.1 hclosing
    -- The closed span goes on over the line end.
    obtain ⟨c, x, hparts⟩ := List.exists_cons_of_ne_nil hx.ne_nil
    rw [hparts, List.cons_append] at hu
    obtain ⟨rfl, -⟩ := List.cons.inj hu
    exact absurd (List.mem_append_right z (by rw [hparts]; exact List.mem_cons_self ..)) (h _ hz)

/-- The rest of a text of single-line spans from a line end outside spans. -/
theorem singleLine_rest {t u : Text} (h : SingleLine d (t ++ '\n' :: u))
    (ht : scan d .outside t = .outside) : SingleLine d u := by
  intro span hspan
  apply h
  rw [closedSpans_append ht, closedSpans_cons_of_ne (newline_ne_opener d)]
  exact List.mem_append_right _ hspan

/-- The rest of a text of single-line quotes from any line end. -/
theorem singleLine_rest_quote {t u : Text} (h : SingleLine .quote (t ++ '\n' :: u)) :
    SingleLine .quote u := by
  rcases scan_quote t with hout | ⟨e, hin⟩
  · exact singleLine_rest h hout
  · have hclosing := closing?_of_singleLine h (by rw [hin]; simp)
    rw [hin] at hclosing
    have hspans := closedSpans_of_unclosed_quote hclosing
    rw [closedSpans_cons_of_ne (newline_ne_opener .quote)] at hspans
    simp [SingleLine, hspans]

end Span

namespace Layout

/-- The lines that alignment drops: those before the first directive, if there is one. -/
def preamble (pieces : List Text) : List Text :=
  if pieces.any isDirective then pieces.takeWhile fun line => !isDirective line else []

theorem preamble_append_align (pieces : List Text) : preamble pieces ++ align pieces = pieces := by
  rw [preamble, align]
  split
  · exact List.takeWhile_append_dropWhile ..
  · rfl

end Layout

namespace Repair

open Span Layout Block

theorem singleLine_compactLines {dialect : Option Dialect} {d : Delimiter}
    (hd : d ∈ Label.delimiters dialect) (source : Text) :
    SingleLine d (joinLines (compactLines dialect source)) := by
  have hnormal := Label.neatSpans_normalize hd (rebuilt dialect source)
  have hframed := ((Label.stable_neatSpans d).newlines _).2 hnormal
  have hlines := (rework_compactLines dialect source false).neatSpans hframed
  rw [NeatSpans, closedSpans_terminated] at hlines
  exact singleLine_of_neatSpans hlines

/-- A repaired diagram has the spans of its lines. -/
theorem singleLine_repair_eq (d : Delimiter) (code : Text) :
    SingleLine d (repair code) ↔ SingleLine d (joinLines
      (align (compactLines (detect? (source code)) (source code)))) := by
  rw [← singleLine_balance d (detect? (source code))]
  change _ ↔ SingleLine d (joinLines (repairedLines (detect? (source code)) (source code)))
  cases hlines : repairedLines (detect? (source code)) (source code) with
  | nil =>
    rw [repair_of_nil hlines]
    rfl
  | cons first rest =>
    obtain ⟨w, hw, hfirst, -⟩ := exists_trimStart first
    have hjoin := joinLines_append_cons w (trimStart first) rest
    rw [← hfirst] at hjoin
    rw [repair_of_cons hlines, hjoin, SingleLine, SingleLine,
      closedSpans_idle_append d (idle_of_blank hw)]

/-- The closed spans of a repaired diagram are on single lines exactly if no line before the
directive leaves a delimiter open, or else the remaining lines hold no closed span over several
lines. Quoted spans always are. -/
theorem singleLine_repair (code : Text) (d : Delimiter)
    (hd : d ∈ Label.delimiters (detect? (source code))) :
    SingleLine d (repair code) ↔ d = .quote ∨
      scan d .outside (joinLines (preamble
        (compactLines (detect? (source code)) (source code)))) = .outside ∨
      SingleLine d (joinLines (align
        (compactLines (detect? (source code)) (source code)))) := by
  have hall := singleLine_compactLines hd (source code)
  rw [singleLine_repair_eq]
  generalize compactLines (detect? (source code)) (source code) = pieces at hall
  constructor
  · exact fun h => .inr (.inr h)
  · by_cases hpreamble : preamble pieces = []
    · have halign := preamble_append_align pieces
      rw [hpreamble, List.nil_append] at halign
      rw [halign]
      exact fun _ => hall
    · by_cases halign : align pieces = []
      · rw [halign]
        exact fun _ span hspan => absurd hspan List.not_mem_nil
      · rw [← preamble_append_align pieces, joinLines_append hpreamble halign] at hall
        rintro (rfl | hout | h)
        · exact singleLine_rest_quote hall
        · exact singleLine_rest hall hout
        · exact h

theorem singleLine_repair_preamble :
    Delimiter.round ∈ Label.delimiters (detect? (source "A(\nx)\ngraph TD\nA(x\ny)".toList)) ∧
      (SingleLine .round (repair "A(\nx)\ngraph TD\nA(x\ny)".toList) ↔
        Delimiter.round = .quote ∨
          scan .round .outside (joinLines (preamble (compactLines
            (detect? (source "A(\nx)\ngraph TD\nA(x\ny)".toList))
            (source "A(\nx)\ngraph TD\nA(x\ny)".toList)))) = .outside ∨
          SingleLine .round (joinLines (align (compactLines
            (detect? (source "A(\nx)\ngraph TD\nA(x\ny)".toList))
            (source "A(\nx)\ngraph TD\nA(x\ny)".toList))))) := by
  have h : Delimiter.round ∈ Label.delimiters
      (detect? (source "A(\nx)\ngraph TD\nA(x\ny)".toList)) := by decide +kernel
  exact ⟨h, singleLine_repair _ .round h⟩

/-- A bracket that a dropped line leaves open hides the closed spans after it from all passes. -/
theorem not_singleLine_repair :
    ¬ ∀ code d, d ∈ Label.delimiters (detect? (source code)) → SingleLine d (repair code) := by
  intro h
  have hspan : "[x\ny]".toList ∈ closedSpans .square (repair "[\ngraph TD\nA[x\ny]".toList) := by
    decide +kernel
  exact h "[\ngraph TD\nA[x\ny]".toList .square (by decide +kernel) _ hspan (by decide)

end Repair

end DiagramStudio
