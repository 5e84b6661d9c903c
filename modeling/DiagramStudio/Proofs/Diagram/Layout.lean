import DiagramStudio.Diagram.Layout
import DiagramStudio.Proofs.Diagram.Collapse
import DiagramStudio.Proofs.Text.Lines

/-!
# Layout of lines

A line that is not blank is a trimmed text between two runs of blanks. Compacting keeps the first
run, drops the second and squeezes what stands between. Compacting all lines is a rework of the
whole text.
-/

namespace DiagramStudio

open Text

namespace Layout

/-! ## Squeezed texts -/

theorem gap_ne_nil {run : Text} (h : run ≠ []) : gap run ≠ [] := by
  cases run with
  | nil => exact absurd rfl h
  | cons c run => cases run <;> simp [gap]

theorem blank_gap {run : Text} (h : ∀ c ∈ run, isBlank c = true) :
    ∀ c ∈ gap run, isBlank c = true := by
  match run with
  | [] => simp [gap]
  | [c] => simpa [gap] using h
  | _ :: _ :: _ => simp [gap, isBlank_space]

theorem gap_gap (run : Text) : gap (gap run) = gap run := by
  match run with
  | [] => rfl
  | [_] => rfl
  | _ :: _ :: _ => rfl

theorem squeeze_blank_append {run w : Text} (hw : ∀ c ∈ w, isBlank c = true) (t : Text) :
    squeeze run (w ++ t) = squeeze (run ++ w) t := by
  induction w generalizing run with
  | nil => simp
  | cons c w ih =>
    rw [List.cons_append, squeeze, if_pos (hw c (List.mem_cons_self ..)),
      ih fun c' hc' => hw c' (List.mem_cons_of_mem c hc')]
    simp

theorem squeeze_cons {c : Char} (hc : isBlank c = false) (run t : Text) :
    squeeze run (c :: t) = gap run ++ c :: squeeze [] t := by
  simp [squeeze, hc]

theorem head?_squeeze {t : Text} (ht : ∀ c, t.head? = some c → isBlank c = false) :
    (squeeze [] t).head? = t.head? := by
  cases t with
  | nil => rfl
  | cons c t => simp [squeeze_cons (ht c rfl), gap]

/-- Squeezing drops trailing blanks. -/
theorem not_blank_getLast?_squeeze (w t : Text) :
    ∀ c, (squeeze w t).getLast? = some c → isBlank c = false := by
  induction t generalizing w with
  | nil => simp [squeeze]
  | cons c t ih =>
    cases hb : isBlank c with
    | true => simpa [squeeze, hb] using ih (w ++ [c])
    | false =>
      intro c' hc'
      rw [squeeze_cons hb] at hc'
      cases hs : squeeze [] t with
      | nil =>
        simp only [hs, List.getLast?_append, List.getLast?_singleton, Option.some_or,
          Option.some.injEq] at hc'
        rwa [← hc']
      | cons c'' u =>
        apply ih [] c'
        simpa [hs, List.getLast?_cons] using hc'

theorem trimmed_squeeze {t : Text} (ht : Trimmed t) : Trimmed (squeeze [] t) where
  head c hc := ht.head c (by rwa [head?_squeeze ht.head] at hc)
  last := not_blank_getLast?_squeeze [] t

theorem squeeze_eq_nil_iff {t : Text} (ht : Trimmed t) : squeeze [] t = [] ↔ t = [] := by
  rw [← List.head?_eq_none_iff, head?_squeeze ht.head, List.head?_eq_none_iff]

/-- Squeezing a second time changes nothing, also from inside a run of blanks. -/
theorem squeeze_squeeze {w : Text} (hr : ∀ c ∈ w, isBlank c = true) (t : Text) :
    squeeze [] (squeeze w t) = squeeze w t := by
  induction t generalizing w with
  | nil => rfl
  | cons c t ih =>
    cases hb : isBlank c with
    | true =>
      rw [squeeze, if_pos hb]
      exact ih (blank_append_singleton hr hb)
    | false =>
      rw [squeeze_cons hb, squeeze_blank_append (blank_gap hr), List.nil_append, squeeze_cons hb,
        gap_gap, ih (by simp)]

/-- Squeezing keeps the characters that are not blank. -/
theorem mem_squeeze {c : Char} (hc : isBlank c = false) {w : Text}
    (hr : ∀ c ∈ w, isBlank c = true) (t : Text) : c ∈ squeeze w t ↔ c ∈ t := by
  induction t generalizing w with
  | nil => simp [squeeze]
  | cons c' t ih =>
    cases hb : isBlank c' with
    | true =>
      have hne : c ≠ c' := by
        rintro rfl
        simp [hb] at hc
      rw [squeeze, if_pos hb, ih (blank_append_singleton hr hb)]
      simp [hne]
    | false =>
      have hgap : c ∉ gap w := by
        intro h
        simp [blank_gap hr c h] at hc
      rw [squeeze_cons hb]
      simp [hgap, ih (w := []) (by simp)]

/-- Squeezing a trimmed text shortens its inner runs to one blank at least. -/
theorem squeeze_eq_self {w t : Text} (hr : ∀ c ∈ w, isBlank c = true)
    (ht : ∀ c, t.getLast? = some c → isBlank c = false) (hne : t = [] → w = [])
    (h : ∀ c ∈ squeeze w t, isBlank c = false) : w = [] ∧ squeeze w t = t := by
  induction t generalizing w with
  | nil => exact ⟨hne rfl, rfl⟩
  | cons c t ih =>
    have ht' : ∀ c, t.getLast? = some c → isBlank c = false := by
      intro c' hc'
      apply ht c'
      rw [List.getLast?_cons, hc']
      rfl
    cases hb : isBlank c with
    | true =>
      rw [squeeze, if_pos hb] at h
      have hne' : t = [] → w ++ [c] = [] := by
        rintro rfl
        simp [ht c rfl] at hb
      have := (ih (blank_append_singleton hr hb) ht' hne' h).1
      simp at this
    | false =>
      rw [squeeze_cons hb] at h ⊢
      -- A run of blanks would leave a blank.
      have hrun : w = [] := by
        apply Classical.byContradiction
        intro hrun
        obtain ⟨c', x, hx⟩ := List.exists_cons_of_ne_nil (gap_ne_nil hrun)
        have hblank := blank_gap hr c' (by rw [hx]; exact List.mem_cons_self ..)
        have hink := h c' (by rw [hx]; exact List.mem_cons_self ..)
        simp [hink] at hblank
      subst hrun
      refine ⟨rfl, ?_⟩
      have := (ih (w := []) (by simp) ht' (fun _ => rfl) fun c' hc' => h c' (by simp [gap, hc'])).2
      simp [gap, this]

theorem newline_not_mem_squeeze {w t : Text} (hr : '\n' ∉ w) (ht : '\n' ∉ t) :
    '\n' ∉ squeeze w t := by
  induction t generalizing w with
  | nil => simp [squeeze]
  | cons c t ih =>
    simp only [List.mem_cons, not_or] at ht
    cases hb : isBlank c with
    | true =>
      rw [squeeze, if_pos hb]
      exact ih (by simp [hr, ht.1]) ht.2
    | false =>
      have hgap : '\n' ∉ gap w := by
        match w with
        | [] => simp [gap]
        | [_] => simpa [gap] using hr
        | _ :: _ :: _ => simp [gap]
      rw [squeeze_cons hb]
      simp [hgap, ht.1, ih (w := []) (by simp) ht.2]

/-! ## Compact lines -/

theorem compactLine_of_blank {line : Text} (h : ∀ c ∈ line, isBlank c = true) :
    compactLine line = [] := by
  have : trimEnd line = [] := trimEnd_append_blank h []
  simp [compactLine, this, squeeze, trimStart]

/-- A compact line keeps the indentation and squeezes the rest. -/
theorem compactLine_append {w x v : Text} (hw : ∀ c ∈ w, isBlank c = true)
    (hv : ∀ c ∈ v, isBlank c = true) (hx : Trimmed x) (hne : x ≠ []) :
    compactLine (w ++ (x ++ v)) = w ++ squeeze [] x := by
  have hkept : trimEnd (w ++ (x ++ v)) = w ++ x := by
    rw [← List.append_assoc, trimEnd_append_blank hv]
    apply trimEnd_of_last
    intro c hc
    apply hx.last c
    rwa [List.getLast?_append_of_ne_nil _ hne] at hc
  rw [compactLine, hkept, takeWhile_blank_append hw hx.head, trimStart_blank_append hw,
    trimStart_of_head hx.head]

/-- A line is blank, or a trimmed text between two runs of blanks. -/
theorem compactLine_cases (line : Text) :
    ((∀ c ∈ line, isBlank c = true) ∧ compactLine line = []) ∨
      ∃ w x v, (∀ c ∈ w, isBlank c = true) ∧ (∀ c ∈ v, isBlank c = true) ∧ Trimmed x ∧ x ≠ [] ∧
        line = w ++ (x ++ v) ∧ compactLine line = w ++ squeeze [] x := by
  obtain ⟨w, v, hw, hv, hline, htrim⟩ := exists_trim line
  by_cases hne : trim line = []
  · have hblank := blank_of_trim_eq_nil hne
    exact .inl ⟨hblank, compactLine_of_blank hblank⟩
  · refine .inr ⟨w, trim line, v, hw, hv, htrim, hne, hline, ?_⟩
    conv_lhs => rw [hline, compactLine_append hw hv htrim hne]

/-- Trimming a compact line squeezes the trimmed line. -/
theorem trim_compactLine (line : Text) : trim (compactLine line) = squeeze [] (trim line) := by
  rcases compactLine_cases line with ⟨hblank, hnil⟩ | ⟨w, x, v, hw, hv, hx, -, rfl, hcompact⟩
  · rw [hnil, trim_of_blank hblank]
    rfl
  · have h := trim_append hw (v := []) (by simp) (trimmed_squeeze hx)
    rw [List.append_nil] at h
    rw [hcompact, h, trim_append hw hv hx]

/-- Compacting a second time changes nothing. -/
theorem compactLine_compactLine (line : Text) :
    compactLine (compactLine line) = compactLine line := by
  rcases compactLine_cases line with ⟨-, hnil⟩ | ⟨w, x, v, hw, -, hx, hne, rfl, hcompact⟩
  · rw [hnil]
    rfl
  · have hsq : squeeze [] x ≠ [] := fun h => hne ((squeeze_eq_nil_iff hx).1 h)
    have h := compactLine_append hw (v := []) (by simp) (trimmed_squeeze hx) hsq
    rw [List.append_nil, squeeze_squeeze (by simp)] at h
    rw [hcompact, h]

/-- A line without indentation keeps its first character. -/
theorem head?_compactLine {line : Text} (h : ∀ c, line.head? = some c → isBlank c = false) :
    (compactLine line).head? = line.head? := by
  rcases compactLine_cases line with ⟨hblank, hnil⟩ | ⟨w, x, v, hw, -, hx, hne, rfl, hcompact⟩
  · cases line with
    | nil => rfl
    | cons c line =>
      have hc := hblank c (List.mem_cons_self ..)
      rw [h c rfl] at hc
      simp at hc
  · cases w with
    | cons c w =>
      have hc := hw c (List.mem_cons_self ..)
      rw [h c rfl] at hc
      simp at hc
    | nil =>
      obtain ⟨c, y, rfl⟩ := List.exists_cons_of_ne_nil hne
      rw [hcompact, List.nil_append, head?_squeeze hx.head]
      rfl

theorem newline_not_mem_compactLine {line : Text} (h : '\n' ∉ line) : '\n' ∉ compactLine line := by
  rcases compactLine_cases line with ⟨-, hnil⟩ | ⟨w, x, v, -, -, -, -, rfl, hcompact⟩
  · simp [hnil]
  · simp only [List.mem_append, not_or] at h
    rw [hcompact, List.mem_append, not_or]
    exact ⟨h.1, newline_not_mem_squeeze (by simp) h.2.1⟩

/-- A line as compacting leaves it. -/
structure Compact (line : Text) : Prop where
  ne_nil : line ≠ []
  newline : '\n' ∉ line
  compacted : compactLine line = line

theorem compact_of_mem {t line : Text} (h : line ∈ compact t) : Compact line := by
  obtain ⟨hline, hne⟩ := List.mem_filter.1 h
  obtain ⟨piece, hpiece, rfl⟩ := List.mem_map.1 hline
  have hn := newline_not_mem_of_mem_segmentLines hpiece
  exact ⟨by simpa using hne, newline_not_mem_compactLine hn, compactLine_compactLine piece⟩

/-- Compacting leaves compact lines as they are. -/
theorem compact_of_forall {t : Text} (h : ∀ line ∈ segmentLines t, Compact line) :
    compact t = segmentLines t := by
  have hmap : (segmentLines t).map compactLine = (segmentLines t).map id :=
    List.map_congr_left fun line hline => (h line hline).compacted
  rw [compact, hmap, List.map_id, List.filter_eq_self]
  intro line hline
  simpa using (h line hline).ne_nil

/-- Compact lines end in no blank. -/
theorem Compact.last {line : Text} (h : Compact line) :
    ∀ c, line.getLast? = some c → isBlank c = false := by
  intro c hc
  have hkept := h.compacted
  rcases compactLine_cases line with ⟨-, hnil⟩ | ⟨w, x, v, -, -, hx, hne, hline, hcompact⟩
  · exact absurd (hkept ▸ hnil) h.ne_nil
  · have hsq : squeeze [] x ≠ [] := fun h => hne ((squeeze_eq_nil_iff hx).1 h)
    rw [← hkept, hcompact, List.getLast?_append_of_ne_nil _ hsq] at hc
    exact (trimmed_squeeze hx).last c hc

/-- A compact line without its indentation. -/
theorem Compact.trimStart {line : Text} (h : Compact line) :
    trimStart line ≠ [] ∧ ∀ c, (trimStart line).getLast? = some c → isBlank c = false := by
  obtain ⟨w, hw, hline, hhead⟩ := exists_trimStart line
  have hne : Text.trimStart line ≠ [] := by
    intro hnil
    rw [hnil, List.append_nil] at hline
    have hblank : ∀ c ∈ line, isBlank c = true := by
      rw [hline]
      exact hw
    exact h.ne_nil (h.compacted ▸ compactLine_of_blank hblank)
  refine ⟨hne, ?_⟩
  intro c hc
  apply h.last c
  rw [hline, List.getLast?_append_of_ne_nil _ hne]
  exact hc

theorem getLast?_joinLines {pieces : List Text} (h : ∀ line ∈ pieces, line ≠ []) {c : Char}
    (hc : (joinLines pieces).getLast? = some c) : ∃ line ∈ pieces, line.getLast? = some c := by
  induction pieces with
  | nil => simp [joinLines] at hc
  | cons line pieces ih =>
    cases pieces with
    | nil => exact ⟨line, List.mem_cons_self .., by simpa using hc⟩
    | cons second pieces =>
      have hne : joinLines (second :: pieces) ≠ [] := joinLines_ne_nil (h second (by simp)) pieces
      rw [joinLines_cons_cons, List.getLast?_append_of_ne_nil _ (by simp),
        List.getLast?_cons_of_ne_nil hne] at hc
      obtain ⟨line', hline', hlast⟩ := ih (fun l hl => h l (List.mem_cons_of_mem line hl)) hc
      exact ⟨line', List.mem_cons_of_mem line hline', hlast⟩

/-- Of joined compact lines trimming drops the indentation of the first. -/
theorem trim_joinLines {first : Text} {rest : List Text}
    (h : ∀ line ∈ first :: rest, Compact line) :
    trim (joinLines (first :: rest)) = joinLines (trimStart first :: rest) := by
  obtain ⟨w, hw, hfirst, hhead⟩ := exists_trimStart first
  obtain ⟨hne, hlast⟩ := (h first (List.mem_cons_self ..)).trimStart
  have htrimmed : Trimmed (joinLines (trimStart first :: rest)) := by
    refine ⟨?_, ?_⟩
    · intro c hc
      rw [head?_joinLines_cons hne] at hc
      exact hhead c hc
    · intro c hc
      have hne' : ∀ line ∈ trimStart first :: rest, line ≠ [] := by
        rw [List.forall_mem_cons]
        exact ⟨hne, fun line hline => (h line (List.mem_cons_of_mem first hline)).ne_nil⟩
      obtain ⟨line, hline, hc⟩ := getLast?_joinLines hne' hc
      rcases List.mem_cons.1 hline with rfl | hline
      · exact hlast c hc
      · exact (h line (List.mem_cons_of_mem first hline)).last c hc
  have h := trim_append hw (v := []) (by simp) htrimmed
  rw [List.append_nil, ← joinLines_append_cons, ← hfirst] at h
  exact h

/-- Joined lines that end in no blank are trimmed if the first line has no indentation. -/
theorem trimmed_joinLines {first : Text} {rest : List Text}
    (h : ∀ line ∈ first :: rest, Compact line)
    (hhead : ∀ c, first.head? = some c → isBlank c = false) :
    Trimmed (joinLines (first :: rest)) := by
  have htrim := trim_joinLines h
  rw [trimStart_of_head hhead] at htrim
  rw [← htrim]
  exact trimmed_trim _

end Layout

namespace Span

open Layout Ampersand

/-! ## Laying out as a rework -/

theorem Rework.keep_append {R : Change} (w : Text) {t u : Text} (h : ∀ b, Rework R b t u)
    (b : Bool) : Rework R b (w ++ t) (w ++ u) := by
  induction w generalizing b with
  | nil => exact h b
  | cons c w ih => exact .keep b c (ih _)

/-- Squeezing respells a text that ends in no blank, here after a run of blanks. -/
theorem rework_squeeze {w x : Text} (hr : ∀ c ∈ w, isBlank c = true)
    (hx : ∀ c, x.getLast? = some c → isBlank c = false) (hne : x = [] → w = []) {r u : Text}
    (h : ∀ b, Rework edit b r u) (b : Bool) :
    Rework edit b (w ++ (x ++ r)) (squeeze w x ++ u) := by
  induction x generalizing w b with
  | nil =>
    rw [hne rfl]
    exact h b
  | cons c x ih =>
    have hx' : ∀ c, x.getLast? = some c → isBlank c = false := by
      intro c' hc'
      apply hx c'
      rw [List.getLast?_cons, hc']
      rfl
    cases hb : isBlank c with
    | true =>
      have hxne : x ≠ [] := by
        rintro rfl
        simp [hx c rfl] at hb
      have := ih (blank_append_singleton hr hb) hx' (fun h => absurd h hxne) b
      rw [squeeze, if_pos hb]
      simpa using this
    | false =>
      have rest : ∀ b, Rework edit b (c :: (x ++ r)) (c :: (squeeze [] x ++ u)) :=
        fun b => .keep b c (ih (w := []) (by simp) hx' (fun _ => rfl) _)
      rw [squeeze_cons hb, List.append_assoc]
      match w with
      | [] => exact rest b
      | [a] => exact .keep b a (rest _)
      | a :: a' :: w => exact .change (.inl (.space (by simp) hr)) (rest _)

theorem idle_newline : Idle ['\n'] := by simp [Idle, marks]

/-- Lines without delimiters that are dropped leave one newline. -/
theorem Rework.drop {R : Change} (hR : ∀ b x y n, dropLines b x y n → R b x y n) {x : Text}
    (hx : Idle x) (hn : '\n' ∈ x) {t u : Text} (h : ∀ b, Rework R b t u) (b : Bool) :
    Rework R b (x ++ t) ('\n' :: u) :=
  .change (y := ['\n']) (hR _ _ _ _ ⟨hx, hn, rfl⟩) (h _)

/-- Compacting the lines of a text is a rework, here after lines `x` that were dropped. -/
theorem rework_compact (pieces : List Text) {x : Text} (hx : Idle x) (hn : '\n' ∈ x) (b : Bool) :
    Rework edit b (x ++ terminated pieces)
      ('\n' :: terminated ((pieces.map compactLine).filter fun line => !line.isEmpty)) := by
  induction pieces generalizing x b with
  | nil => exact .drop (fun _ _ _ _ => .inr) hx hn (fun b => .nil b) b
  | cons line pieces ih =>
    rcases compactLine_cases line with ⟨hblank, hnil⟩ | ⟨w, y, v, hw, hv, hy, hne, rfl, hcompact⟩
    · -- A blank line is dropped with the lines before it.
      have := ih (hx.append ((idle_of_blank hblank).append idle_newline)) (by simp [hn]) b
      simpa [hnil] using this
    · -- The trailing blanks go with the newline after them.
      have rest : ∀ b, Rework edit b (v ++ '\n' :: terminated pieces)
          ('\n' :: terminated ((pieces.map compactLine).filter fun line => !line.isEmpty)) := by
        intro b
        simpa using ih ((idle_of_blank hv).append idle_newline) (by simp) b
      have core := rework_squeeze (w := []) (by simp) hy.last (fun _ => rfl) rest
      have hsq : squeeze [] y ≠ [] := fun h => hne ((squeeze_eq_nil_iff hy).1 h)
      have hkept : (w ++ squeeze [] y).isEmpty = false := by simp [hsq]
      have := Rework.drop (fun _ _ _ _ => .inr) hx hn (Rework.keep_append w core) b
      simpa [hcompact, hkept] using this

end Span

end DiagramStudio
