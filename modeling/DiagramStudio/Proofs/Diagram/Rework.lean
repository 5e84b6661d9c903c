import DiagramStudio.Proofs.Diagram.Tidy
import DiagramStudio.Proofs.Text.Blank
import Mathlib.Data.List.Forall2

/-!
# Reworked texts

Every pass copies most characters and changes small pieces in place: runs of blanks, ampersands,
whole lines between two others. `Rework R t u` says that `u` comes from `t` by changes of the kind
`R`. As long as the pieces are `Inert`, free of delimiters and backslashes on both sides, a scan
runs through both texts alike: closing delimiters answer each other, and so do the closed spans,
each a rework of the other. A neat span stays neat.

## Main definitions

- `Change`, `respell`, `dropLines`, `edit`: kinds of changes
- `Rework`: changes in place
-/

namespace DiagramStudio.Span

open Text Ampersand

/-- A kind of change: `R b x y n` replaces `x` by `y`, where `b` and `n` tell whether a letter or
digit was written directly before and stands directly after. -/
abbrev Change := Bool → Text → Text → Bool → Prop

/-- A run of blanks becomes one space, and an ampersand the word for it. -/
inductive respell (b : Bool) : Text → Text → Bool → Prop
  | space {x : Text} {n : Bool} :
    x ≠ [] → (∀ c ∈ x, isBlank c = true) → respell b x [' '] n
  | word {n : Bool} (before after : Option Char) :
    touches before = b → touches after = n → respell b ['&'] (spell before after) n

/-- Whole lines are dropped, so that one newline is left. -/
def dropLines : Change := fun _ x y _ => Idle x ∧ '\n' ∈ x ∧ y = ['\n']

/-- All changes that passes make. -/
def edit : Change := fun b x y n => respell b x y n ∨ dropLines b x y n

/-- `Rework R b t u` says that `u` comes from `t` by changes of kind `R`, where `b` tells whether a
letter or digit was written directly before. -/
inductive Rework (R : Change) : Bool → Text → Text → Prop
  | nil (b : Bool) : Rework R b [] []
  | keep (b : Bool) (c : Char) {t u : Text} :
    Rework R (isAlphanumeric c) t u → Rework R b (c :: t) (c :: u)
  | change {b : Bool} {x y t u : Text} :
    R b x y (touches t.head?) → Rework R (touches y.getLast?) t u → Rework R b (x ++ t) (y ++ u)

/-- Changes that no scan for delimiters notices. -/
def Inert (R : Change) : Prop :=
  ∀ b x y n, R b x y n → (Idle x ∧ x ≠ []) ∧ Idle y ∧ y ≠ []

theorem Rework.mono {R S : Change} (hRS : ∀ b x y n, R b x y n → S b x y n) {b : Bool}
    {t u : Text} (h : Rework R b t u) : Rework S b t u := by
  induction h with
  | nil b => exact .nil b
  | keep b c _ ih => exact .keep b c ih
  | change hr _ ih => exact .change (hRS _ _ _ _ hr) ih

/-! ## Changes are inert -/

theorem idle_spell (before after : Option Char) : Idle (spell before after) := by
  cases hb : touches before <;> cases ha : touches after <;> simp [spell, hb, ha, Idle, marks]

theorem mem_spell {before after : Option Char} {c : Char} (h : c ∈ spell before after) :
    c ∈ [' ', 'a', 'n', 'd'] := by
  revert h
  cases hb : touches before <;> cases ha : touches after <;> simp [spell, hb, ha] <;> grind

theorem spell_ne_nil (before after : Option Char) : spell before after ≠ [] := by
  simp [spell]

theorem inert_respell : Inert respell := by
  rintro b x y n (⟨hne, hb⟩ | ⟨before, after⟩)
  · exact ⟨⟨idle_of_blank hb, hne⟩, by simp [Idle, marks], by simp⟩
  · exact ⟨⟨by simp [Idle, marks], by simp⟩, idle_spell _ _, spell_ne_nil _ _⟩

theorem inert_dropLines : Inert dropLines := by
  rintro b x y n ⟨hx, hn, rfl⟩
  exact ⟨⟨hx, List.ne_nil_of_mem hn⟩, by simp [Idle, marks], by simp⟩

theorem inert_edit : Inert edit := by
  rintro b x y n (h | h)
  · exact inert_respell b x y n h
  · exact inert_dropLines b x y n h

/-! ## Scanning a reworked text -/

section

variable {R : Change} {b : Bool} {t u : Text}

/-- A scan ends at the same place in a reworked text. -/
theorem Rework.scan_eq (hR : Inert R) (h : Rework R b t u) (d : Delimiter) (p : Cursor) :
    scan d p t = scan d p u := by
  induction h generalizing p with
  | nil => rfl
  | keep b c _ ih => exact ih (p.next d c)
  | change hr _ ih =>
    obtain ⟨⟨hx, hxn⟩, hy, hyn⟩ := hR _ _ _ _ hr
    rw [scan_append, scan_append, scan_of_idle d p hx hxn, scan_of_idle d p hy hyn, ih]

/-- An open span closes in a reworked text exactly if it did before, and both parts of the text
are reworked. -/
theorem Rework.closing (hR : Inert R) (h : Rework R b t u) (d : Delimiter) {p : Cursor}
    (hp : p ≠ .outside) :
    match closing? d p t with
    | some (x, r) => ∃ y s b', closing? d p u = some (y, s) ∧ Rework R b x y ∧ Rework R b' r s
    | none => closing? d p u = none := by
  induction h generalizing p with
  | nil => rfl
  | @keep b c t u h ih =>
    rw [closing?, closing?]
    by_cases hc : p.next d c = .outside
    · simp only [hc, if_true]
      exact ⟨[c], u, _, rfl, .keep b c (.nil _), h⟩
    · have ih := ih hc
      simp only [hc, if_false]
      cases ht : closing? d (p.next d c) t with
      | none =>
        simp only [ht] at ih
        simp [ih]
      | some parts =>
        simp only [ht] at ih
        obtain ⟨y, s, b', hu, hxy, hrs⟩ := ih
        exact ⟨c :: y, s, b', by simp [hu], .keep b c hxy, hrs⟩
  | @change b x y t u hr _ ih =>
    -- Both sides of a change only settle the cursor.
    obtain ⟨⟨hx, hxn⟩, hy, hyn⟩ := hR _ _ _ _ hr
    have ih := ih (p := p.settled) (by simpa using hp)
    rw [closing?_idle_append d hp hx hxn, closing?_idle_append d hp hy hyn]
    cases ht : closing? d p.settled t with
    | none =>
      simp only [ht] at ih
      simp [ih]
    | some parts =>
      simp only [ht] at ih
      obtain ⟨y', s, b', hu, hxy, hrs⟩ := ih
      obtain ⟨rfl, hcl⟩ := closing?_eq_some_iff.1 ht
      rw [head?_append_of_closes hcl] at hr
      exact ⟨y ++ y', s, b', by simp [hu], .change hr hxy, hrs⟩

theorem Rework.closing?_isSome (hR : Inert R) (h : Rework R b t u) (d : Delimiter) {p : Cursor}
    (hp : p ≠ .outside) : (closing? d p t).isSome = (closing? d p u).isSome := by
  have hc := h.closing hR d hp
  cases ht : closing? d p t with
  | none => simp_all
  | some parts =>
    simp only [ht] at hc
    obtain ⟨y, s, b', hu, _⟩ := hc
    simp [hu]

end

/-- The closed spans of a reworked text are the reworked closed spans. -/
theorem Rework.closedSpans {R : Change} (hR : Inert R) (d : Delimiter) {b : Bool} {t u : Text}
    (h : Rework R b t u) :
    List.Forall₂ (Rework R false) (closedSpans d t) (closedSpans d u) := by
  cases h with
  | nil => exact .nil
  | @keep _ c t u h =>
    by_cases hc : c = d.opener
    · -- A span that closes in one text closes in the other; the recursion goes on after it.
      subst hc
      have hclosing := h.closing hR d opened_ne_outside
      cases hs : closing? d .opened t with
      | none =>
        simp only [hs] at hclosing
        rw [closedSpans_tail hs, closedSpans_tail hclosing]
        exact .nil
      | some parts =>
        simp only [hs] at hclosing
        obtain ⟨y, s, b', hu, hxy, hrs⟩ := hclosing
        obtain ⟨ht, hx⟩ := closing?_eq_some_iff.1 hs
        obtain ⟨rfl, hy⟩ := closing?_eq_some_iff.1 hu
        have hlen : parts.2.length ≤ t.length := by simp [ht]
        rw [ht, closedSpans_span hx, closedSpans_span hy]
        exact .cons (.keep false _ hxy) (Rework.closedSpans hR d hrs)
    · rw [closedSpans_cons_of_ne hc, closedSpans_cons_of_ne hc]
      exact Rework.closedSpans hR d h
  | @change _ x y t u hr h =>
    obtain ⟨⟨hx, hxn⟩, hy, -⟩ := hR _ _ _ _ hr
    have hpos := List.length_pos_iff.2 hxn
    rw [closedSpans_idle_append d hx, closedSpans_idle_append d hy]
    exact Rework.closedSpans hR d h
termination_by t.length
decreasing_by all_goals simp only [List.length_cons, List.length_append]; omega

/-- The characters that passes write. -/
theorem Rework.mem {b : Bool} {t u : Text} (h : Rework edit b t u) {c : Char} (hc : c ∈ u) :
    c ∈ t ∨ c ∈ [' ', 'a', 'n', 'd', '\n'] := by
  induction h with
  | nil => exact .inl hc
  | keep b c' _ ih =>
    rcases List.mem_cons.1 hc with rfl | hc
    · exact .inl (List.mem_cons_self ..)
    · exact (ih hc).imp_left (List.mem_cons_of_mem c')
  | change hr _ ih =>
    rcases List.mem_append.1 hc with hc | hc
    · refine .inr ?_
      rcases hr with (_ | _) | ⟨-, -, rfl⟩
      · simp_all
      · have := mem_spell hc
        simp only [List.mem_cons] at this ⊢
        grind
      · simp_all
    · exact (ih hc).imp_left (List.mem_append_right _)

theorem forall₂_mem_right {R : Text → Text → Prop} {xs ys : List Text} (h : List.Forall₂ R xs ys)
    {y : Text} (hy : y ∈ ys) : ∃ x ∈ xs, R x y := by
  induction h with
  | nil => simp at hy
  | @cons x y' xs ys hxy _ ih =>
    rcases List.mem_cons.1 hy with rfl | hy
    · exact ⟨x, List.mem_cons_self .., hxy⟩
    · obtain ⟨x', hx', h⟩ := ih hy
      exact ⟨x', List.mem_cons_of_mem x hx', h⟩

/-! ## Neat spans stay neat -/

theorem escaped_next {d : Delimiter} {p : Cursor} {c : Char}
    (h : (p.next d c).escaped = true) : c = '\x5c' := by
  cases p with
  | outside =>
    simp only [Cursor.next] at h
    split at h <;> simp [Cursor.escaped, Cursor.opened] at h
  | inside n e =>
    simp only [Cursor.next] at h
    split at h
    · simp [Cursor.escaped] at h
    · split at h
      · next hc => exact hc.1
      · split at h
        · cases n <;> simp [Cursor.escaped] at h
        · split at h <;> simp [Cursor.escaped] at h

theorem isAlphanumeric_backslash : isAlphanumeric '\x5c' = false := by decide

theorem isAlphanumeric_space : isAlphanumeric ' ' = false := by decide

/-- A neat span is a single line. -/
theorem newline_not_mem_of_neat {d : Delimiter} {p : Cursor} {gap : Bool} {t : Text}
    (h : neat d p gap t = true) : '\n' ∉ t := by
  induction t generalizing p gap with
  | nil => simp
  | cons c t ih =>
    rw [neat] at h
    split at h
    · simp only [Bool.and_eq_true, beq_iff_eq] at h
      obtain ⟨⟨rfl, -⟩, h⟩ := h
      simpa using ih h
    · next hb =>
      have hc : c ≠ '\n' := by
        rintro rfl
        exact hb (by decide)
      simpa [hc.symm] using ih (Bool.and_eq_true_iff.1 h).2

theorem neat_space (d : Delimiter) (p : Cursor) (gap : Bool) (t : Text) :
    neat d p gap (' ' :: t) = (!gap && neat d p.settled true t) := by
  rw [neat_cons_of_blank (by decide), p.next_of_not_mem_marks d (by decide)]
  simp

theorem neat_word (d : Delimiter) (p : Cursor) (gap : Bool) (t : Text) :
    neat d p gap ('a' :: 'n' :: 'd' :: t) = neat d p.settled false t := by
  rw [neat_cons_of_not_blank (by decide), neat_cons_of_not_blank (by decide),
    neat_cons_of_not_blank (by decide), p.next_of_not_mem_marks d (by decide),
    p.settled.next_of_not_mem_marks d (by decide), Cursor.settled_settled,
    p.settled.next_of_not_mem_marks d (by decide)]
  simp

/-- The spaces around the word for an ampersand stand alone. -/
theorem neat_spell_append {d : Delimiter} {p : Cursor} {gap : Bool} {before after : Option Char}
    {t : Text} (hb : gap = true → touches before = false)
    (ht : neat d p.settled (touches after) t = true) :
    neat d p gap (spell before after ++ t) = true := by
  have hword : ∀ q gap', Cursor.settled q = p.settled →
      neat d q gap' (['a', 'n', 'd'] ++ (if touches after then [' '] else []) ++ t) = true := by
    intro q gap' hq
    simp only [List.cons_append, List.nil_append, neat_word, hq]
    cases ha : touches after <;> simpa [ha, neat_space] using ht
  cases h : touches before with
  | false => simpa [spell, h] using hword p gap rfl
  | true =>
    have hg : gap = false := by
      cases gap with
      | false => rfl
      | true => simp [hb rfl] at h
    simpa [spell, h, neat_space, hg] using hword p.settled true (Cursor.settled_settled p)

/-- A run of blanks in a neat span is a single space. -/
theorem eq_space_of_neat {d : Delimiter} {p : Cursor} {gap : Bool} {x t : Text} (hne : x ≠ [])
    (hb : ∀ c ∈ x, isBlank c = true) (h : neat d p gap (x ++ t) = true) : x = [' '] := by
  cases x with
  | nil => exact absurd rfl hne
  | cons c x =>
    have hc := hb c (List.mem_cons_self ..)
    rw [List.cons_append, neat_cons_of_blank hc] at h
    simp only [Bool.and_eq_true, beq_iff_eq] at h
    obtain ⟨⟨rfl, -⟩, h⟩ := h
    cases x with
    | nil => rfl
    | cons c' x =>
      rw [List.cons_append, neat_cons_of_blank (hb c' (by simp))] at h
      simp at h

theorem getLast?_spell (before after : Option Char) :
    (spell before after).getLast? = some (lastOfSpell after) := by
  cases h : touches after <;> simp [spell, lastOfSpell, h]

/-- A letter or digit stands at the start of no run of blanks. -/
theorem not_blank_of_touches {t : Text} (h : touches t.head? = true) :
    ∀ c, t.head? = some c → isBlank c = false := by
  intro c hc
  rw [hc] at h
  cases hb : isBlank c with
  | false => rfl
  | true => simp [touches, isAlphanumeric_of_isBlank hb] at h

/-- A rework of a neat text is neat. -/
theorem Rework.neat {b : Bool} {t u : Text} (h : Rework edit b t u) {d : Delimiter} {p : Cursor}
    {gap : Bool} (hg : gap = true → b = false) (hp : p.escaped = true → b = false)
    (hn : neat d p gap t = true) : neat d p gap u = true := by
  induction h generalizing p gap with
  | nil => rfl
  | keep b c h ih =>
    have hp' : (p.next d c).escaped = true → isAlphanumeric c = false := by
      intro he
      rw [escaped_next he, isAlphanumeric_backslash]
    cases hc : isBlank c with
    | true =>
      rw [neat_cons_of_blank hc, Bool.and_eq_true] at hn ⊢
      exact ⟨hn.1, ih (fun _ => isAlphanumeric_of_isBlank hc) hp' hn.2⟩
    | false =>
      rw [neat_cons_of_not_blank hc, Bool.and_eq_true] at hn ⊢
      exact ⟨hn.1, ih (by simp) hp' hn.2⟩
  | @change b x y t u hr h ih =>
    rcases hr with (⟨hne, hb⟩ | ⟨before, after, hbefore, hafter⟩) | ⟨hx, hmem, rfl⟩
    · -- The run is a single space already.
      obtain rfl := eq_space_of_neat hne hb hn
      rw [List.singleton_append, neat_space, Bool.and_eq_true] at hn ⊢
      refine ⟨hn.1, ih (fun _ => isAlphanumeric_space) (fun _ => isAlphanumeric_space) hn.2⟩
    · -- The ampersand is escaped, so a backslash stands before it.
      rw [List.singleton_append, neat_cons_of_not_blank (by decide),
        p.next_of_not_mem_marks d ampersand_not_mem_marks, Bool.and_eq_true] at hn
      apply neat_spell_append
      · intro hgap
        rw [hbefore, hg hgap]
      · apply ih
        · intro ha
          rw [getLast?_spell, lastOfSpell, if_pos ha]
          exact isAlphanumeric_space
        · intro he
          cases p <;> simp [Cursor.settled, Cursor.escaped] at he
        · cases ha : touches after with
          | false => exact hn.2
          | true => rw [neat_gap (not_blank_of_touches (hafter ▸ ha)) true false]; exact hn.2
    · exact absurd (List.mem_append_left t hmem) (newline_not_mem_of_neat hn)

/-- Passes keep closed spans neat. -/
theorem Rework.neatSpans {b : Bool} {t u : Text} (h : Rework edit b t u) {d : Delimiter}
    (ht : NeatSpans d t) : NeatSpans d u := by
  intro y hy
  obtain ⟨x, hx, hxy⟩ := forall₂_mem_right (h.closedSpans inert_edit d) hy
  exact hxy.neat (by simp) (by simp [Cursor.escaped]) (ht x hx)

end DiagramStudio.Span
