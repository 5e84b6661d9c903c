import DiagramStudio.Proofs.Diagram.Normalized
import DiagramStudio.Proofs.Diagram.SpanParts
import DiagramStudio.Proofs.Diagram.Spelling
import DiagramStudio.Proofs.Diagram.WellFormed

/-!
# Ampersands in normalized texts

A normalized text holds no ampersand in the labels on its edges, and in its closed spans only those
that a backslash escapes, which quotes alone know. Every word in place of an ampersand stands apart
from the letters and digits beside it, whichever pass has written these.

## Main definitions

- `Label.SpelledOut`: where ampersands remain, and what stands beside the words for the others
-/

namespace DiagramStudio

open Text Span Ampersand

/-! ## Passes spell their texts -/

namespace Span

/-- What respells a text spells it: a run of blanks becomes one space, and the others are dropped. -/
theorem Rework.spelling {b : Bool} {t u : Text} (h : Rework respell b t u) {last : Option Char}
    (hlast : touches last = b) : Spelling last t u := by
  induction h generalizing last with
  | nil => exact .nil last
  | keep b c _ ih => exact .char c (ih rfl)
  | @change b x y t u hr _ ih =>
    rcases hr with ⟨hne, hblank⟩ | ⟨before, after, hbefore, hafter⟩
    · obtain ⟨c, x, rfl⟩ := List.exists_cons_of_ne_nil hne
      rw [List.forall_mem_cons] at hblank
      exact .space hblank.1 (.drop_append hblank.2 rfl (ih rfl))
    · rw [getLast?_spell] at ih
      have hrest := ih rfl
      -- A letter or digit that follows in the source follows in the text.
      have htouches : touches u.head? = touches after := by
        cases ha : touches after with
        | true => exact hrest.touches_head (hafter ▸ ha)
        | false =>
          rw [hrest.touches_head?_eq, ← hafter, ha]
          rw [lastOfSpell, ha]
          decide
      rw [List.singleton_append, spell_congr (hbefore.trans hlast.symm) htouches.symm]
      refine .word ?_
      rwa [lastOfSpell_congr htouches]

end Span

namespace Label

theorem spelling_collapseAll (dialect : Option Dialect) (code : Text) (last : Option Char) :
    Spelling last code (collapseAll dialect code) := by
  have refl : ∀ t : Text, Spelling last t t :=
    fun t => (Rework.refl respell (touches last) t).spelling rfl
  rw [collapseAll]
  induction delimiters dialect generalizing code with
  | nil => exact refl code
  | cons d ds ih =>
    rw [List.foldl_cons]
    exact ((rework_collapse d (touches last) code).spelling rfl).trans (ih _)

/-- A normalized text spells its source. -/
theorem spelling_normalize (dialect : Option Dialect) (code : Text) (last : Option Char) :
    Spelling last code (normalize dialect code) := by
  have hedges := rework_edges dialect code (touches last)
  exact (spelling_collapseAll dialect code last).trans (hedges.spelling rfl)

end Label

/-! ## Escaped ampersands -/

namespace Span

/-- A closed span stands in its text, from an opening delimiter to the one that closes it. -/
theorem exists_of_mem_closedSpans {d : Delimiter} {t span : Text} (h : span ∈ closedSpans d t) :
    span <:+: t ∧ ∃ x, span = d.opener :: x ∧ Closes d .opened x := by
  induction t using spans_induction d with
  | nil => simp at h
  | char c t hc ih =>
    rw [closedSpans_cons_of_ne hc] at h
    exact ⟨List.infix_cons (ih h).1, (ih h).2⟩
  | span x r hx ih =>
    rw [closedSpans_span hx, List.mem_cons] at h
    rcases h with rfl | h
    · exact ⟨⟨[], r, rfl⟩, x, rfl, hx⟩
    · exact ⟨(ih h).1.trans (List.suffix_append (d.opener :: x) r).isInfix, (ih h).2⟩
  | tail t ht => simp [closedSpans_tail ht] at h

/-- What escapes the next character is a backslash. -/
theorem exists_of_escapes {d : Delimiter} {front : Text} (h : escapes d front = true) :
    ∃ u, front = u ++ ['\x5c'] := by
  induction front using List.reverseRecOn with
  | nil => simp [escapes] at h
  | append_singleton u c _ =>
    rw [escapes_append_singleton, Bool.and_eq_true, Bool.and_eq_true, beq_iff_eq] at h
    exact ⟨u, by rw [h.1.2]⟩

/-- Inside a span the cursor knows whether the next character is escaped. -/
theorem Cursor.escaped_next {d : Delimiter} {p : Cursor} {front : Text} (hp : p ≠ .outside)
    (hfront : p.escaped = escapes d front) (c : Char) :
    (p.next d c).escaped = escapes d (front ++ [c]) := by
  cases p with
  | outside => exact absurd rfl hp
  | inside n e =>
    rw [escapes_append_singleton, ← hfront]
    simp only [next]
    split
    · next hc =>
      -- A blank is no backslash, and what is escaped escapes nothing.
      rcases Bool.or_eq_true_iff.1 hc with hb | he
      · have hne : c ≠ '\x5c' := by
          rintro rfl
          exact absurd hb (by decide)
        simp [escaped, hne]
      · simp [escaped, he]
    · next hc =>
      split
      · next hbackslash => simp_all [escaped]
      · next hbackslash =>
        have hescape : (decide (d = .quote) && c == '\x5c') = false := by
          simp only [Bool.and_eq_false_iff, decide_eq_false_iff_not, beq_eq_false_iff_ne]
          exact not_and_or.1 fun h => hbackslash h.symm
        rw [hescape]
        split
        · cases n <;> rfl
        · split <;> rfl

/-- Ampersands in neat spans are escaped. -/
theorem escapes_of_neat {d : Delimiter} {p : Cursor} {x : Text} (hx : Closes d p x)
    (hp : p ≠ .outside) {front : Text} (hfront : p.escaped = escapes d front) {gap : Bool}
    (hn : neat d p gap x = true) {y z : Text} (h : x = y ++ '&' :: z) :
    escapes d (front ++ y) = true := by
  induction hx generalizing front gap y with
  | @last p c hc =>
    cases p with
    | outside => exact absurd rfl hp
    | inside n e =>
      obtain rfl := (eq_closer_of_next hc).1
      have hmem : '&' ∈ [d.closer] := by
        rw [h]
        exact List.mem_append_right y (List.mem_cons_self ..)
      exact absurd (List.mem_singleton.1 hmem) (ampersand_ne_closer d)
  | @cons p c x hc _ ih =>
    cases y with
    | nil =>
      obtain ⟨rfl, -⟩ := List.cons.inj h
      rw [neat_cons_of_not_blank (by decide), Bool.and_eq_true] at hn
      rw [List.append_nil, ← hfront]
      simpa using hn.1
    | cons c' y =>
      obtain ⟨rfl, rfl⟩ := List.cons.inj h
      have hrest : ∃ gap', neat d (p.next d c) gap' (y ++ '&' :: z) = true := by
        cases hb : isBlank c with
        | true =>
          rw [neat_cons_of_blank hb, Bool.and_eq_true] at hn
          exact ⟨true, hn.2⟩
        | false =>
          rw [neat_cons_of_not_blank hb, Bool.and_eq_true] at hn
          exact ⟨false, hn.2⟩
      obtain ⟨gap', hrest⟩ := hrest
      have hescapes := ih hc (Cursor.escaped_next hp hfront c) hrest rfl
      rwa [List.append_assoc] at hescapes

/-- Ampersands in closed spans that are neat are escaped. -/
theorem NeatSpans.escapes {d : Delimiter} {t front rest : Text} (h : NeatSpans d t)
    (hspan : front ++ '&' :: rest ∈ closedSpans d t) : escapes d front = true := by
  have hneat := h _ hspan
  obtain ⟨-, x, hx, hcloses⟩ := exists_of_mem_closedSpans hspan
  rw [hx, neat_cons_of_not_blank (isBlank_opener d), Cursor.next, if_pos rfl,
    Bool.and_eq_true] at hneat
  cases front with
  | nil => exact absurd (List.cons.inj hx).1 (ampersand_ne_opener d)
  | cons c front =>
    obtain ⟨rfl, hrest⟩ := List.cons.inj hx
    have hopened : Cursor.opened.escaped = Span.escapes d [d.opener] := by cases d <;> decide
    exact escapes_of_neat hcloses opened_ne_outside hopened hneat.2 hrest.symm

end Span

namespace Label

/-- The ampersands of a source as they are left in its normalized text. -/
structure SpelledOut (dialect : Option Dialect) (code : Text) : Prop where
  /-- An ampersand in a closed span is escaped, and a backslash stands before it in the source. -/
  spans : ∀ d, (d = .curly → dialect ≠ some .classes) →
    ∀ span ∈ closedSpans d (normalize dialect code), ∀ front rest, span = front ++ '&' :: rest →
      escapes d front = true ∧ ['\x5c', '&'] <:+: code
  labels : ∀ line ∈ segmentLines (normalize dialect code), ∀ label ∈ EdgeLabel.labels line,
    '&' ∉ label
  /-- The text consists of one piece for each character of the source. -/
  words : ∃ pieces, pieces.map Piece.read = code ∧
    pieces.flatMap Piece.written = normalize dialect code ∧ Apart none pieces

/-- Normalizing spells out every ampersand in a closed span that no backslash escapes, and every
one in an edge label, and keeps the words apart from letters and digits. -/
theorem spelledOut_normalize (dialect : Option Dialect) (code : Text) :
    SpelledOut dialect code where
  spans := by
    rintro d hd span hspan front rest rfl
    have hescapes := (neatSpans_normalize (mem_delimiters_iff.2 hd) code).escapes hspan
    refine ⟨hescapes, (spelling_normalize dialect code none).escaped_in_source ?_⟩
    obtain ⟨u, rfl⟩ := exists_of_escapes hescapes
    have hbackslash : ['\x5c', '&'] <:+: u ++ ['\x5c'] ++ '&' :: rest := ⟨u, rest, by simp⟩
    exact hbackslash.trans (exists_of_mem_closedSpans hspan).1
  labels := by
    intro line hline
    exact (EdgeLabel.clean_iff_labels rfl).1 (clean_of_mem_segmentLines hline)
  words := (spelling_normalize dialect code none).exists_pieces

/-- In quotes an ampersand behind a backslash is left as it is. -/
theorem not_ampersand_free :
    ¬ ∀ (dialect : Option Dialect) (code : Text) (d : Delimiter),
      (d = .curly → dialect ≠ some .classes) →
        ∀ span ∈ closedSpans d (normalize dialect code), '&' ∉ span := by
  intro h
  have hspan : "\x22a\x5c&b\x22".toList ∈
      closedSpans .quote (normalize none "\x22a\x5c&b\x22".toList) := by decide +kernel
  exact h none "\x22a\x5c&b\x22".toList .quote (by decide) _ hspan (by decide)

end Label

end DiagramStudio
