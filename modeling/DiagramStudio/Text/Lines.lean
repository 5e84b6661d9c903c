import DiagramStudio.Text.Basic

/-!
# Lines

Two readings of a text as lines. `segmentLines` cuts at every newline and removes nothing else,
so `joinLines` undoes it. `lines` reads lines as a file holds them: each ends at a newline or at
a carriage return and a newline, and a final line end opens no further line.
-/

namespace DiagramStudio.Text

/-- The pieces between newlines; an empty text is one empty piece. -/
def segmentLines (t : Text) : List Text := segments (· == '\n') t

/-- The pieces joined by single newlines. -/
def joinLines (pieces : List Text) : Text := List.intercalate ['\n'] pieces

/-- A terminated line without the carriage return of its line end. -/
def dropCarriageReturn (line : Text) : Text := (stripEnd? ['\r'] line).getD line

/-- Turns the pieces between newlines into lines. All but the last were terminated; an empty
last piece is what follows the final line end. -/
def linesOfSegments : List Text → List Text
  | [] => []
  | [last] => if last.isEmpty then [] else [last]
  | line :: rest => dropCarriageReturn line :: linesOfSegments rest

/-- The lines of a text, without their line ends. -/
def lines (t : Text) : List Text := linesOfSegments (segmentLines t)

theorem joinLines_segmentLines (t : Text) : joinLines (segmentLines t) = t := by
  induction t with
  | nil => simp [joinLines, segmentLines, segments]
  | cons c t ih =>
    obtain ⟨piece, pieces, hp⟩ := List.exists_cons_of_ne_nil (segments_ne_nil (· == '\n') t)
    rw [segmentLines, hp] at ih
    rw [segmentLines, segments, hp]
    split
    · next hc =>
      obtain rfl : c = '\n' := by simpa using hc
      simpa [joinLines, List.intercalate] using ih
    · cases pieces <;> simp_all [joinLines, List.intercalate]

/-- Pieces without newlines are found again in their join. -/
theorem segmentLines_joinLines {pieces : List Text} (hne : pieces ≠ [])
    (h : ∀ piece ∈ pieces, '\n' ∉ piece) : segmentLines (joinLines pieces) = pieces := by
  induction pieces with
  | nil => exact absurd rfl hne
  | cons piece pieces ih =>
    have hp : ∀ c ∈ piece, (c == '\n') = false := by
      intro c hc
      have : c ≠ '\n' := by
        rintro rfl
        exact h piece (List.mem_cons_self ..) hc
      simpa using this
    cases pieces with
    | nil =>
      simpa [joinLines, segmentLines] using segments_of_forall hp
    | cons second rest =>
      have hj : joinLines (piece :: second :: rest) =
          piece ++ '\n' :: joinLines (second :: rest) := by
        simp [joinLines, List.intercalate]
      rw [hj, segmentLines, segments_append_cons (by rfl) hp]
      have := ih (by simp) fun p hm => h p (List.mem_cons_of_mem piece hm)
      rw [segmentLines] at this
      rw [this]

end DiagramStudio.Text
