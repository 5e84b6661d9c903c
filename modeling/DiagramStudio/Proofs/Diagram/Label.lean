import DiagramStudio.Diagram.Label
import DiagramStudio.Proofs.Diagram.Collapse
import DiagramStudio.Proofs.Diagram.Directive
import DiagramStudio.Proofs.Diagram.EdgeLabel
import DiagramStudio.Proofs.Diagram.Layout

/-!
# Normalized labels

After all passes the closed spans of every delimiter are neat, although each pass tidies the spans
of one delimiter only: the later passes are reworks, and these keep neat spans. A text whose
closed spans are neat and whose lines are clean is normalized already.
-/

namespace DiagramStudio

open Text Span

/-! ## Edge labels line by line -/

namespace EdgeLabel

/-- Spelling out line by line respells the whole text. -/
theorem rework_spellOut (pieces : List Text) (b : Bool) :
    Rework respell b (joinLines pieces) (joinLines (pieces.map spellOut)) := by
  match pieces with
  | [] => exact .nil b
  | [line] =>
    have h := rework_spellFrom (.between none) line (r := []) (u := []) (b := b) .nil rfl (by simp)
    simpa [spellOut] using h
  | line :: second :: pieces =>
    have rest : ∀ b, Rework respell b ('\n' :: joinLines (second :: pieces))
        ('\n' :: joinLines ((second :: pieces).map spellOut)) :=
      fun b => .keep b '\n' (rework_spellOut (second :: pieces) _)
    have hn : Ampersand.touches (some '\n') = false := by decide
    rw [List.map_cons, List.map_cons, joinLines_cons_cons, joinLines_cons_cons]
    exact rework_spellFrom (.between none) line rest hn (by simp)

/-- Squeezing does not move pipes and ampersands. -/
theorem clean_squeeze (s : State) {w : Text} (hr : ∀ c ∈ w, isBlank c = true) (t : Text) :
    clean s (Layout.squeeze w t) = clean s t := by
  induction t generalizing s w with
  | nil => rfl
  | cons c t ih =>
    cases hb : isBlank c with
    | true =>
      have hc : ∀ c' ∈ [c], isBlank c' = true := by simpa using hb
      rw [Layout.squeeze, if_pos hb, ih s (blank_append_singleton hr hb),
        ← clean_blank_append s hc t, List.singleton_append]
    | false =>
      have hpipe : (Layout.squeeze [] t).contains '|' = t.contains '|' := by
        simp [Layout.mem_squeeze isBlank_pipe]
      have ih := fun s => ih s (w := []) (by simp)
      rw [Layout.squeeze_cons hb, clean_blank_append s (Layout.blank_gap hr)]
      cases s with
      | between ink => rw [clean, clean, hpipe, ih, ih, ih]
      | label last => rw [clean, clean, ih, ih]

/-- Compacting keeps a line clean. -/
theorem clean_compactLine (s : State) (line : Text) :
    clean s (Layout.compactLine line) = clean s line := by
  rcases Layout.compactLine_cases line with
    ⟨hblank, hnil⟩ | ⟨w, x, v, hw, hv, -, -, rfl, hcompact⟩
  · have h := clean_blank_append s hblank []
    rw [List.append_nil] at h
    rw [hnil, h]
  · rw [hcompact, clean_blank_append s hw, clean_squeeze s (by simp), clean_blank_append s hw,
      clean_append_blank s _ hv]

end EdgeLabel

namespace Label

open EdgeLabel

/-! ## Stable properties -/

/-- A property of texts that passes keep and that newlines around a text do not touch. -/
structure Stable (P : Text → Prop) : Prop where
  rework {b : Bool} {t u : Text} : Rework edit b t u → P t → P u
  newlines (t : Text) : P ('\n' :: (t ++ ['\n'])) ↔ P t

theorem stable_neatSpans (d : Delimiter) : Stable (NeatSpans d) where
  rework h := h.neatSpans
  newlines t := by
    have h := closedSpans_idle_append d idle_newline (t ++ ['\n'])
    rw [List.singleton_append, closedSpans_append_idle d t idle_newline] at h
    rw [NeatSpans, NeatSpans, h]

theorem Stable.foldl {P : Text → Prop} (hP : Stable P) (ds : List Delimiter) {t : Text}
    (h : P t) : P (ds.foldl (fun t d => collapse d t) t) := by
  induction ds generalizing t with
  | nil => exact h
  | cons d ds ih => exact ih (hP.rework (rework_collapse d false t).edit h)

theorem Stable.terminated {P : Text → Prop} (hP : Stable P) {pieces : List Text}
    (hne : pieces ≠ []) : P ('\n' :: Text.terminated pieces) ↔ P (joinLines pieces) := by
  rw [← joinLines_append_newline hne, hP.newlines]

/-! ## All passes -/

/-- After a pass for each delimiter the closed spans of all of them are neat. -/
theorem neatSpans_collapseAll {dialect : Option Dialect} {d : Delimiter}
    (hd : d ∈ delimiters dialect) (t : Text) : NeatSpans d (collapseAll dialect t) := by
  rw [collapseAll]
  generalize delimiters dialect = ds at hd ⊢
  induction ds generalizing t with
  | nil => simp at hd
  | cons d' ds ih =>
    rcases List.mem_cons.1 hd with rfl | hd
    · exact (stable_neatSpans d).foldl ds (neatSpans_collapse d t)
    · exact ih (collapse d' t) hd

theorem segmentLines_normalize (dialect : Option Dialect) (t : Text) :
    segmentLines (normalize dialect t) = (segmentLines (collapseAll dialect t)).map spellOut := by
  refine segmentLines_joinLines ?_ ?_
  · simpa using segmentLines_ne_nil (collapseAll dialect t)
  · intro piece hpiece
    obtain ⟨line, hline, rfl⟩ := List.mem_map.1 hpiece
    exact newline_not_mem_spellOut (newline_not_mem_of_mem_segmentLines hline)

/-- The edge labels are spelled out by a rework of the whole text. -/
theorem rework_edges (dialect : Option Dialect) (t : Text) (b : Bool) :
    Rework respell b (collapseAll dialect t) (normalize dialect t) := by
  have h := rework_spellOut (segmentLines (collapseAll dialect t)) b
  rwa [joinLines_segmentLines] at h

theorem Stable.edges {P : Text → Prop} (hP : Stable P) {dialect : Option Dialect} {t : Text}
    (h : P (collapseAll dialect t)) : P (normalize dialect t) :=
  hP.rework (rework_edges dialect t false).edit h

theorem Stable.normalize {P : Text → Prop} (hP : Stable P) (dialect : Option Dialect) {t : Text}
    (h : P t) : P (normalize dialect t) :=
  hP.edges (hP.foldl (delimiters dialect) h)

/-- In a normalized text the closed spans of all delimiters are neat. -/
theorem neatSpans_normalize {dialect : Option Dialect} {d : Delimiter}
    (hd : d ∈ delimiters dialect) (t : Text) : NeatSpans d (normalize dialect t) :=
  (stable_neatSpans d).edges (neatSpans_collapseAll hd t)

/-- All lines of a normalized text are clean. -/
theorem clean_of_mem_segmentLines {dialect : Option Dialect} {t line : Text}
    (h : line ∈ segmentLines (normalize dialect t)) : clean (.between none) line = true := by
  rw [segmentLines_normalize] at h
  obtain ⟨piece, -, rfl⟩ := List.mem_map.1 h
  exact clean_spellFrom _ piece

/-- A text with neat spans and clean lines is normalized. -/
theorem normalize_of_neat {dialect : Option Dialect} {t : Text}
    (hspans : ∀ d ∈ delimiters dialect, NeatSpans d t)
    (hlines : ∀ line ∈ segmentLines t, clean (.between none) line = true) :
    normalize dialect t = t := by
  have hcollapse : ∀ ds : List Delimiter, (∀ d ∈ ds, NeatSpans d t) →
      ds.foldl (fun t d => collapse d t) t = t := by
    intro ds
    induction ds with
    | nil => exact fun _ => rfl
    | cons d ds ih =>
      intro h
      rw [List.forall_mem_cons] at h
      rw [List.foldl_cons, collapse_of_neatSpans h.1]
      exact ih h.2
  have hspell : (segmentLines t).map spellOut = (segmentLines t).map id :=
    List.map_congr_left fun line hline => spellFrom_of_clean (hlines line hline)
  rw [normalize, collapseAll, hcollapse _ hspans, hspell, List.map_id, joinLines_segmentLines]

theorem head?_joinLines_map {f : Text → Text} (hf : ∀ line, (f line).head? = line.head?)
    (pieces : List Text) : (joinLines (pieces.map f)).head? = (joinLines pieces).head? := by
  match pieces with
  | [] => rfl
  | [line] => simpa using hf line
  | line :: second :: pieces =>
    rw [List.map_cons, List.map_cons, joinLines_cons_cons, joinLines_cons_cons, List.head?_append,
      List.head?_append, hf]
    rfl

/-- What every pass over spans keeps, all passes keep. -/
theorem collapseAll_keeps {α : Type} {f : Text → α} (hf : ∀ d t, f (collapse d t) = f t)
    (dialect : Option Dialect) (t : Text) : f (collapseAll dialect t) = f t := by
  rw [collapseAll]
  induction delimiters dialect generalizing t with
  | nil => rfl
  | cons d ds ih => rw [List.foldl_cons, ih, hf]

/-- Normalizing labels keeps the first character of a text. -/
theorem head?_normalize (dialect : Option Dialect) (t : Text) :
    (normalize dialect t).head? = t.head? := by
  rw [normalize, head?_joinLines_map (f := spellOut) (head?_spellFrom_between none),
    joinLines_segmentLines]
  exact collapseAll_keeps head?_collapse dialect t

/-- Normalizing labels keeps the stem of a text. -/
theorem stem_normalize (dialect : Option Dialect) (t : Text) :
    Dialect.stem (normalize dialect t) = Dialect.stem t := by
  obtain ⟨line, rest, hpieces, hstem⟩ := Dialect.stem_firstLine (collapseAll dialect t)
  obtain ⟨line', rest', hpieces', hstem'⟩ := Dialect.stem_firstLine (normalize dialect t)
  rw [segmentLines_normalize, hpieces, List.map_cons] at hpieces'
  obtain ⟨rfl, -⟩ := List.cons.inj hpieces'
  rw [hstem', Dialect.stem_spellOut, ← hstem]
  exact collapseAll_keeps Dialect.stem_collapse dialect t

end Label

end DiagramStudio
