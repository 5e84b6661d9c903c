import DiagramStudio.Proofs.Text.Blank
import DiagramStudio.Text.Lines

/-!
# Pieces of a text

The pieces between newlines hold no newline, and a separator splits the pieces of a text into
those before and those after it. `terminated` writes a newline after every piece, also after the
last, which suits inductions over the pieces better than `joinLines`.
-/

namespace DiagramStudio.Text

theorem segments_append_sep {sep : Char → Bool} (t : Text) {c : Char} (hc : sep c = true)
    (u : Text) : segments sep (t ++ c :: u) = segments sep t ++ segments sep u := by
  induction t with
  | nil => simp [segments, hc]
  | cons c' t ih =>
    obtain ⟨p, ps, hp⟩ := List.exists_cons_of_ne_nil (segments_ne_nil sep t)
    rw [List.cons_append, segments, ih, segments, hp]
    split <;> rfl

theorem segmentLines_ne_nil (t : Text) : segmentLines t ≠ [] := segments_ne_nil _ t

theorem segmentLines_append_newline (t u : Text) :
    segmentLines (t ++ '\n' :: u) = segmentLines t ++ segmentLines u :=
  segments_append_sep t (by rfl) u

theorem segmentLines_of_not_mem {t : Text} (h : '\n' ∉ t) : segmentLines t = [t] := by
  apply segments_of_forall
  intro c hc
  have : c ≠ '\n' := by
    rintro rfl
    exact h hc
  simpa using this

theorem segmentLines_newline_cons (t : Text) : segmentLines ('\n' :: t) = [] :: segmentLines t :=
  segmentLines_append_newline [] t

theorem segmentLines_cons_of_ne {c : Char} (hc : c ≠ '\n') {t piece : Text} {pieces : List Text}
    (h : segmentLines t = piece :: pieces) : segmentLines (c :: t) = (c :: piece) :: pieces := by
  rw [segmentLines] at h
  rw [segmentLines, segments, h, if_neg (by simpa using hc)]

theorem segmentLines_append_of_not_mem {w t line : Text} {rest : List Text} (hn : '\n' ∉ w)
    (h : segmentLines t = line :: rest) : segmentLines (w ++ t) = (w ++ line) :: rest := by
  induction w with
  | nil => exact h
  | cons c w ih =>
    simp only [List.mem_cons, not_or] at hn
    exact segmentLines_cons_of_ne (Ne.symm hn.1) (ih hn.2)

/-- The pieces hold what is no separator. -/
theorem of_mem_segments {sep : Char → Bool} {t piece : Text} (h : piece ∈ segments sep t)
    {c : Char} (hc : c ∈ piece) : sep c = false ∧ c ∈ t := by
  induction t generalizing piece with
  | nil =>
    obtain rfl := List.mem_singleton.1 h
    simp at hc
  | cons c' t ih =>
    obtain ⟨p, ps, hp⟩ := List.exists_cons_of_ne_nil (segments_ne_nil sep t)
    rw [hp] at ih
    rw [segments, hp] at h
    have later : ∀ {q : Text}, q ∈ p :: ps → c ∈ q → sep c = false ∧ c ∈ c' :: t :=
      fun hq hc => (ih hq hc).imp_right (List.mem_cons_of_mem c')
    split at h
    · rcases List.mem_cons.1 h with rfl | h
      · simp at hc
      · exact later h hc
    · next hsep =>
      rcases List.mem_cons.1 h with rfl | h
      · rcases List.mem_cons.1 hc with rfl | hc
        · exact ⟨by simpa using hsep, List.mem_cons_self ..⟩
        · exact later (List.mem_cons_self ..) hc
      · exact later (List.mem_cons_of_mem p h) hc

theorem newline_not_mem_of_mem_segmentLines {t piece : Text} (h : piece ∈ segmentLines t) :
    '\n' ∉ piece := by
  intro hn
  simpa using (of_mem_segments h hn).1

theorem joinLines_cons_cons (piece second : Text) (pieces : List Text) :
    joinLines (piece :: second :: pieces) = piece ++ '\n' :: joinLines (second :: pieces) := by
  simp [joinLines, List.intercalate]

@[simp]
theorem joinLines_singleton (piece : Text) : joinLines [piece] = piece := by
  simp [joinLines]

theorem joinLines_ne_nil {piece : Text} (h : piece ≠ []) (pieces : List Text) :
    joinLines (piece :: pieces) ≠ [] := by
  cases pieces with
  | nil => simpa using h
  | cons second pieces => simp [joinLines_cons_cons]

theorem joinLines_append_cons (w piece : Text) (pieces : List Text) :
    joinLines ((w ++ piece) :: pieces) = w ++ joinLines (piece :: pieces) := by
  cases pieces with
  | nil => simp
  | cons second pieces => simp [joinLines_cons_cons]

theorem head?_joinLines_cons {piece : Text} (h : piece ≠ []) (pieces : List Text) :
    (joinLines (piece :: pieces)).head? = piece.head? := by
  obtain ⟨c, t, rfl⟩ := List.exists_cons_of_ne_nil h
  cases pieces with
  | nil => simp
  | cons second pieces => simp [joinLines_cons_cons]

theorem head?_eq_of_segmentLines {t piece : Text} {pieces : List Text}
    (h : segmentLines t = piece :: pieces) (hne : piece ≠ []) : t.head? = piece.head? := by
  rw [← joinLines_segmentLines t, h, head?_joinLines_cons hne]

theorem mem_joinLines_iff {pieces : List Text} {c : Char} (hc : c ≠ '\n') :
    c ∈ joinLines pieces ↔ ∃ piece ∈ pieces, c ∈ piece := by
  induction pieces with
  | nil => simp [joinLines]
  | cons piece pieces ih =>
    cases pieces with
    | nil => simp
    | cons second pieces =>
      rw [joinLines_cons_cons, List.mem_append, List.mem_cons, ih]
      simp [hc]

theorem joinLines_append {front back : List Text} (hfront : front ≠ []) (hback : back ≠ []) :
    joinLines (front ++ back) = joinLines front ++ '\n' :: joinLines back := by
  induction front with
  | nil => exact absurd rfl hfront
  | cons line front ih =>
    cases front with
    | nil =>
      obtain ⟨second, rest, rfl⟩ := List.exists_cons_of_ne_nil hback
      rw [List.singleton_append, joinLines_cons_cons, joinLines_singleton]
    | cons second front =>
      rw [List.cons_append, List.cons_append, joinLines_cons_cons, joinLines_cons_cons,
        ← List.cons_append, ih (by simp)]
      simp

/-- A single line among joined pieces is a line of the join. -/
theorem mem_segmentLines_joinLines {line : Text} {pieces : List Text} (h : line ∈ pieces)
    (hn : '\n' ∉ line) : line ∈ segmentLines (joinLines pieces) := by
  induction pieces with
  | nil => simp at h
  | cons piece pieces ih =>
    cases pieces with
    | nil =>
      obtain rfl := List.mem_singleton.1 h
      rw [joinLines_singleton, segmentLines_of_not_mem hn]
      exact h
    | cons second pieces =>
      rw [joinLines_cons_cons, segmentLines_append_newline]
      rcases List.mem_cons.1 h with rfl | h
      · rw [segmentLines_of_not_mem hn]
        exact List.mem_append_left _ (List.mem_cons_self ..)
      · exact List.mem_append_right _ (ih h)

theorem mem_of_mem_segmentLines {t line : Text} (h : line ∈ segmentLines t) {c : Char}
    (hc : c ∈ line) : c ∈ t :=
  (of_mem_segments h hc).2

/-- A line that is not the last was terminated. -/
theorem linesOfSegments_cons_cons (line second : Text) (rest : List Text) :
    linesOfSegments (line :: second :: rest) =
      dropCarriageReturn line :: linesOfSegments (second :: rest) := rfl

/-- A carriage return is blank, so trimming does not see it. -/
theorem trim_dropCarriageReturn (line : Text) : trim (dropCarriageReturn line) = trim line := by
  rw [dropCarriageReturn]
  cases h : stripEnd? ['\r'] line with
  | none => rfl
  | some rest =>
    obtain rfl := stripEnd?_eq_some_iff.1 h
    have hblank : ['\r'].all isBlank = true := by decide
    rw [Option.getD_some, trim_append_blank (List.all_eq_true.1 hblank)]

theorem newline_not_mem_dropCarriageReturn {line : Text} (h : '\n' ∉ line) :
    '\n' ∉ dropCarriageReturn line := by
  rw [dropCarriageReturn]
  cases hstrip : stripEnd? ['\r'] line with
  | none => exact h
  | some rest =>
    intro hmem
    rw [stripEnd?_eq_some_iff.1 hstrip] at h
    exact h (List.mem_append_left _ hmem)

theorem newline_not_mem_of_mem_lines {t line : Text} (h : line ∈ lines t) : '\n' ∉ line := by
  have hpieces : ∀ piece ∈ segmentLines t, '\n' ∉ piece :=
    fun _ => newline_not_mem_of_mem_segmentLines
  rw [lines] at h
  generalize segmentLines t = pieces at h hpieces
  induction pieces with
  | nil => simp [linesOfSegments] at h
  | cons piece pieces ih =>
    rw [List.forall_mem_cons] at hpieces
    cases pieces with
    | nil =>
      rw [linesOfSegments] at h
      split at h
      · simp at h
      · rw [List.mem_singleton.1 h]
        exact hpieces.1
    | cons second pieces =>
      rw [linesOfSegments_cons_cons] at h
      rcases List.mem_cons.1 h with rfl | h
      · exact newline_not_mem_dropCarriageReturn hpieces.1
      · exact ih h hpieces.2

/-- Lines are found again in their join if none of them is empty or ends like a line end. -/
theorem lines_joinLines {pieces : List Text}
    (h : ∀ line ∈ pieces, line ≠ [] ∧ '\n' ∉ line ∧ line.getLast? ≠ some '\r') :
    lines (joinLines pieces) = pieces := by
  have hlines : linesOfSegments pieces = pieces := by
    induction pieces with
    | nil => rfl
    | cons line pieces ih =>
      rw [List.forall_mem_cons] at h
      obtain ⟨⟨hne, -, hlast⟩, hrest⟩ := h
      cases pieces with
      | nil =>
        rw [linesOfSegments, if_neg]
        simpa using hne
      | cons second pieces =>
        have hdrop : dropCarriageReturn line = line := by
          rw [dropCarriageReturn, stripEnd?_eq_none_iff.2, Option.getD_none]
          rintro ⟨front, rfl⟩
          exact hlast List.getLast?_concat
        rw [linesOfSegments_cons_cons, hdrop, ih hrest]
  cases pieces with
  | nil => rfl
  | cons line pieces =>
    rw [lines, segmentLines_joinLines (by simp) fun piece hpiece => (h piece hpiece).2.1, hlines]

/-- The pieces with a newline after each. -/
def terminated (pieces : List Text) : Text := pieces.flatMap (· ++ ['\n'])

@[simp]
theorem terminated_nil : terminated [] = [] := rfl

@[simp]
theorem terminated_cons (piece : Text) (pieces : List Text) :
    terminated (piece :: pieces) = piece ++ '\n' :: terminated pieces := by
  simp [terminated]

theorem joinLines_append_newline {pieces : List Text} (h : pieces ≠ []) :
    joinLines pieces ++ ['\n'] = terminated pieces := by
  induction pieces with
  | nil => exact absurd rfl h
  | cons piece pieces ih =>
    cases pieces with
    | nil => simp
    | cons second pieces =>
      rw [joinLines_cons_cons, terminated_cons, ← ih (by simp)]
      simp

theorem terminated_segmentLines (t : Text) : terminated (segmentLines t) = t ++ ['\n'] := by
  rw [← joinLines_append_newline (segmentLines_ne_nil t), joinLines_segmentLines]

theorem joinLines_append_terminated (front : List Text) {back : List Text} (h : back ≠ []) :
    joinLines (front ++ back) = terminated front ++ joinLines back := by
  cases front with
  | nil => rfl
  | cons line front =>
    rw [joinLines_append (by simp) h, ← joinLines_append_newline (by simp), List.append_assoc,
      List.singleton_append]

theorem segmentLines_terminated_append {pieces : List Text} (h : ∀ piece ∈ pieces, '\n' ∉ piece)
    (t : Text) : segmentLines (terminated pieces ++ t) = pieces ++ segmentLines t := by
  induction pieces with
  | nil => rfl
  | cons piece pieces ih =>
    rw [List.forall_mem_cons] at h
    rw [terminated_cons, List.append_assoc, List.cons_append, segmentLines_append_newline,
      segmentLines_of_not_mem h.1, ih h.2, List.singleton_append, List.cons_append]

end DiagramStudio.Text
