import DiagramStudio.Diagram.EdgeLabel
import DiagramStudio.Proofs.Diagram.Rework

/-!
# Edge labels

A line is `clean` when no label on its edges holds an ampersand. Spelling out makes every line
clean and leaves clean lines as they are. It respells the line, keeps its pipes, and copies what
stands before the first one.
-/

namespace DiagramStudio.EdgeLabel

open Text Ampersand Span

/-- True of the rest of a line whose labels hold no ampersand. -/
def clean : State → Text → Bool
  | _, [] => true
  | .between ink, c :: t =>
    if c = '|' then
      if ink.any endsArrow && t.contains '|' then clean (.label c) t
      else clean (.between (some c)) t
    else clean (.between (if isBlank c then ink else some c)) t
  | .label _, c :: t =>
    if c = '|' then clean (.between (some c)) t
    else c != '&' && clean (.label c) t

theorem isBlank_pipe : isBlank '|' = false := by decide

/-! ## The characters of a spelled line -/

/-- Spelling out writes spaces and the letters of the word only. -/
theorem mem_spellFrom {s : State} {t : Text} {c : Char} (h : c ∈ spellFrom s t) :
    c ∈ t ∨ c ∈ [' ', 'a', 'n', 'd'] := by
  induction t generalizing s with
  | nil => cases s <;> simp [spellFrom] at h
  | cons c' t ih =>
    have copied : ∀ s', c ∈ c' :: spellFrom s' t → c ∈ c' :: t ∨ c ∈ [' ', 'a', 'n', 'd'] := by
      intro s' h
      rcases List.mem_cons.1 h with h | h
      · exact .inl (h ▸ List.mem_cons_self ..)
      · exact (ih h).imp_left (List.mem_cons_of_mem c')
    cases s with
    | between ink =>
      rw [spellFrom] at h
      split at h
      · split at h
        · exact copied _ h
        · exact copied _ h
      · exact copied _ h
    | label last =>
      rw [spellFrom] at h
      split at h
      · exact copied _ h
      · split at h
        · rcases List.mem_append.1 h with h | h
          · exact .inr (mem_spell h)
          · exact (ih h).imp_left (List.mem_cons_of_mem c')
        · exact copied _ h

theorem newline_not_mem_spellOut {line : Text} (hn : '\n' ∉ line) : '\n' ∉ spellOut line := by
  intro h
  rcases mem_spellFrom h with h | h
  · exact hn h
  · exact absurd h (by decide)

/-- Spelling out keeps the pipes. -/
theorem pipe_mem_spellFrom (s : State) (t : Text) : '|' ∈ spellFrom s t ↔ '|' ∈ t := by
  induction t generalizing s with
  | nil => cases s <;> simp [spellFrom]
  | cons c t ih =>
    cases s with
    | between ink =>
      rw [spellFrom]
      split
      · next hc => subst hc; split <;> simp
      · simp [ih]
    | label last =>
      rw [spellFrom]
      split
      · next hc => subst hc; simp
      · split
        · next ha =>
          subst ha
          have : '|' ∉ spell (some last) t.head? := fun h => absurd (mem_spell h) (by decide)
          simp [this, ih]
        · simp [ih]

/-! ## Clean lines -/

theorem clean_label (a b : Char) (t : Text) : clean (.label a) t = clean (.label b) t := by
  cases t <;> rfl

theorem clean_label_append {x : Text} (hx : ∀ c ∈ x, c ≠ '|' ∧ c ≠ '&') (a b : Char) (t : Text) :
    clean (.label a) (x ++ t) = clean (.label b) t := by
  induction x generalizing a with
  | nil => exact clean_label a b t
  | cons c x ih =>
    obtain ⟨hp, ha⟩ := hx c (List.mem_cons_self ..)
    rw [List.cons_append, clean, if_neg hp, ih fun c' hc' => hx c' (List.mem_cons_of_mem c hc')]
    simp [ha]

/-- Spelling out leaves a clean line as it is. -/
theorem spellFrom_of_clean {s : State} {t : Text} (h : clean s t = true) : spellFrom s t = t := by
  induction t generalizing s with
  | nil => cases s <;> rfl
  | cons c t ih =>
    cases s with
    | between ink =>
      rw [clean] at h
      rw [spellFrom]
      split at h
      · next hc =>
        split at h
        · next hl => rw [if_pos hc, if_pos hl, ih h]
        · next hl => rw [if_pos hc, if_neg hl, ih h]
      · next hc => rw [if_neg hc, ih h]
    | label last =>
      rw [clean] at h
      rw [spellFrom]
      split at h
      · next hc => rw [if_pos hc, ih h]
      · next hc =>
        obtain ⟨ha, h⟩ := Bool.and_eq_true_iff.1 h
        rw [if_neg hc, if_neg (by simpa using ha), ih h]

/-- Spelling out makes a line clean. -/
theorem clean_spellFrom (s : State) (t : Text) : clean s (spellFrom s t) = true := by
  induction t generalizing s with
  | nil => cases s <;> rfl
  | cons c t ih =>
    cases s with
    | between ink =>
      rw [spellFrom]
      split
      · next hc =>
        -- A label opens in the spelled line exactly if it opens in the line.
        have hpipe : (spellFrom (.label c) t).contains '|' = t.contains '|' := by
          simp [pipe_mem_spellFrom]
        have hpipe' : (spellFrom (.between (some c)) t).contains '|' = t.contains '|' := by
          simp [pipe_mem_spellFrom]
        split
        · next hl => rw [clean, if_pos hc, hpipe, if_pos hl, ih]
        · next hl => rw [clean, if_pos hc, hpipe', if_neg hl, ih]
      · next hc => rw [clean, if_neg hc, ih]
    | label last =>
      rw [spellFrom]
      split
      · next hc => rw [clean, if_pos hc, ih]
      · next hc =>
        split
        · rw [clean_label_append, ih]
          intro c hc
          have := mem_spell hc
          simp only [List.mem_cons, List.not_mem_nil, or_false] at this
          rcases this with rfl | rfl | rfl | rfl <;> decide
        · next ha => simp [clean, hc, ha, ih]

/-- Blanks before the rest of a line do not matter. -/
theorem clean_blank_append (s : State) {x : Text} (hx : ∀ c ∈ x, isBlank c = true) (t : Text) :
    clean s (x ++ t) = clean s t := by
  induction x generalizing s with
  | nil => rfl
  | cons c x ih =>
    have hc := hx c (List.mem_cons_self ..)
    have hp : c ≠ '|' := by
      rintro rfl
      simp [isBlank_pipe] at hc
    have ha : c ≠ '&' := by
      rintro rfl
      exact absurd hc (by decide)
    have ih := fun s => ih s fun c' hc' => hx c' (List.mem_cons_of_mem c hc')
    cases s with
    | between ink => rw [List.cons_append, clean, if_neg hp, if_pos hc, ih]
    | label last =>
      rw [List.cons_append, clean, if_neg hp, ih, clean_label c last]
      simp [ha]

/-- Blanks after a line do not matter. -/
theorem clean_append_blank (s : State) (t : Text) {x : Text} (hx : ∀ c ∈ x, isBlank c = true) :
    clean s (t ++ x) = clean s t := by
  induction t generalizing s with
  | nil => simpa [clean] using clean_blank_append s hx []
  | cons c t ih =>
    have hp : '|' ∉ x := fun h => absurd (hx '|' h) (by decide)
    have hpipe : (t ++ x).contains '|' = t.contains '|' := by simp [hp]
    cases s with
    | between ink => rw [List.cons_append, clean, clean, hpipe, ih, ih, ih]
    | label last => rw [List.cons_append, clean, clean, ih, ih]

/-! ## What stays in place -/

theorem spellFrom_between_append {x : Text} (hx : '|' ∉ x) (ink : Option Char) (t : Text) :
    ∃ ink', spellFrom (.between ink) (x ++ t) = x ++ spellFrom (.between ink') t := by
  induction x generalizing ink with
  | nil => exact ⟨ink, rfl⟩
  | cons c x ih =>
    simp only [List.mem_cons, not_or] at hx
    obtain ⟨ink', h⟩ := ih hx.2 (if isBlank c then ink else some c)
    exact ⟨ink', by rw [List.cons_append, spellFrom, if_neg (Ne.symm hx.1), h, List.cons_append]⟩

/-- A line without pipes has no labels. -/
theorem spellOut_of_not_mem {line : Text} (h : '|' ∉ line) : spellOut line = line := by
  obtain ⟨ink, h⟩ := spellFrom_between_append h none []
  simpa [spellOut, spellFrom] using h

/-- Between labels the first character is copied. -/
theorem head?_spellFrom_between (ink : Option Char) (t : Text) :
    (spellFrom (.between ink) t).head? = t.head? := by
  cases t with
  | nil => rfl
  | cons c t =>
    rw [spellFrom]
    repeat' split
    all_goals rfl

/-! ## Spelling out as a rework -/

/-- Spelling out respells the rest of a line. -/
theorem rework_spellFrom (s : State) (t : Text) {r u : Text} (hr : ∀ b, Rework respell b r u)
    (hn : touches r.head? = false) {b : Bool}
    (hb : ∀ last, s = .label last → isAlphanumeric last = b) :
    Rework respell b (t ++ r) (spellFrom s t ++ u) := by
  induction t generalizing s b with
  | nil => cases s <;> exact hr b
  | cons c t ih =>
    cases s with
    | between ink =>
      rw [spellFrom]
      split
      · split
        · exact .keep b c (ih _ (by simp))
        · exact .keep b c (ih _ (by simp))
      · exact .keep b c (ih _ (by simp))
    | label last =>
      rw [spellFrom]
      split
      · exact .keep b c (ih _ (by simp))
      · split
        · next ha =>
          subst ha
          -- At the end of the line the next character is the first of `r`.
          have hafter : touches t.head? = touches (t ++ r).head? := by
            cases t with
            | nil => simpa [touches] using hn
            | cons => rfl
          have := ih (.label (lastOfSpell t.head?)) (by simp; rfl)
          rw [List.append_assoc]
          refine .change (x := ['&']) (.word _ _ ?_ hafter) ?_
          · exact hb last rfl
          · rw [getLast?_spell]
            exact this
        · exact .keep b c (ih _ (by simp))

end DiagramStudio.EdgeLabel
