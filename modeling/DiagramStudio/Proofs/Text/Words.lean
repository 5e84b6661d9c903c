import DiagramStudio.Proofs.Text.Lines
import Mathlib.Data.List.Basic

/-!
# Words and gaps

A trimmed text is made of words and of the gaps between them, in turn. What holds of single words
and is passed on by a first word with the gap behind it holds of every trimmed text. Words and gaps
determine a text up to the blanks around it.

## Main definitions

- `gaps`: the runs of blanks between the words of a text
- `weave`: the text of given words and gaps
- `Leads`: a first word, the gap behind it and the text that follows
-/

namespace DiagramStudio.Text

/-- The maximal runs of characters that are no separators, in order. -/
def runs (sep : Char → Bool) (t : Text) : List Text :=
  (segments sep t).filter fun run => !run.isEmpty

/-- The maximal runs of blanks between the words of a text, in order. -/
def gaps (t : Text) : List Text := runs (fun c => !isBlank c) (trim t)

/-- Words and gaps in turn, from the first word on. -/
def weave : (words gaps : List Text) → Text
  | [], _ => []
  | word :: words, [] => word ++ weave words []
  | word :: words, gap :: gaps => word ++ (gap ++ weave words gaps)

/-- The first word of a trimmed text, the gap behind it and what follows. -/
structure Leads (word gap rest : Text) : Prop where
  word_ne_nil : word ≠ []
  ink : ∀ c ∈ word, isBlank c = false
  gap_ne_nil : gap ≠ []
  blank : ∀ c ∈ gap, isBlank c = true
  rest_ne_nil : rest ≠ []
  rest_trimmed : Trimmed rest

/-! ## Runs -/

variable {sep : Char → Bool}

/-- A separator parts the runs of a text. -/
theorem runs_append_cons {c : Char} (hc : sep c = true) (t u : Text) :
    runs sep (t ++ c :: u) = runs sep t ++ runs sep u := by
  rw [runs, segments_append_sep t hc, List.filter_append, runs, runs]

theorem runs_of_forall {t : Text} (hne : t ≠ []) (h : ∀ c ∈ t, sep c = false) :
    runs sep t = [t] := by
  simp [runs, segments_of_forall h, hne]

theorem runs_sep_append {w : Text} (hw : ∀ c ∈ w, sep c = true) (t : Text) :
    runs sep (w ++ t) = runs sep t := by
  induction w with
  | nil => rfl
  | cons c w ih =>
    rw [List.forall_mem_cons] at hw
    calc runs sep (c :: w ++ t)
        = runs sep [] ++ runs sep (w ++ t) := runs_append_cons hw.1 [] (w ++ t)
      _ = runs sep t := ih hw.2

theorem runs_of_sep {w : Text} (hw : ∀ c ∈ w, sep c = true) : runs sep w = [] := by
  have h := runs_sep_append hw []
  rwa [List.append_nil] at h

theorem runs_append_sep {w : Text} (hw : ∀ c ∈ w, sep c = true) (t : Text) :
    runs sep (t ++ w) = runs sep t := by
  cases w with
  | nil => rw [List.append_nil]
  | cons c w =>
    rw [List.forall_mem_cons] at hw
    rw [runs_append_cons hw.1, runs_of_sep hw.2, List.append_nil]

theorem words_eq_runs (t : Text) : words t = runs isBlank t := rfl

/-- Blanks around a text are no part of its words. -/
theorem words_trim (t : Text) : words (trim t) = words t := by
  obtain ⟨w, v, hw, hv, ht, -⟩ := exists_trim t
  conv_rhs => rw [ht, words_eq_runs, runs_sep_append hw, runs_append_sep hv, ← words_eq_runs]

theorem gaps_trim (t : Text) : gaps (trim t) = gaps t := by
  rw [gaps, (trimmed_trim t).trim_eq, gaps]

/-! ## Single words -/

theorem words_of_ink {t : Text} (hne : t ≠ []) (h : ∀ c ∈ t, isBlank c = false) :
    words t = [t] :=
  runs_of_forall hne h

theorem gaps_of_ink {t : Text} (h : ∀ c ∈ t, isBlank c = false) : gaps t = [] := by
  rw [gaps, trim_of_ink h]
  exact runs_of_sep fun c hc => by simp [h c hc]

/-! ## Words in turn -/

namespace Leads

variable {word gap rest : Text}

theorem trimmed (h : Leads word gap rest) : Trimmed (word ++ (gap ++ rest)) := by
  refine (trimmed_of_ink h.ink).append h.word_ne_nil fun c hc => ?_
  rw [List.getLast?_append_of_ne_nil _ h.rest_ne_nil] at hc
  exact h.rest_trimmed.last c hc

theorem words_eq (h : Leads word gap rest) : words (word ++ (gap ++ rest)) = word :: words rest := by
  obtain ⟨c, gap, rfl⟩ := List.exists_cons_of_ne_nil h.gap_ne_nil
  have hblank := List.forall_mem_cons.1 h.blank
  rw [List.cons_append, words_eq_runs, runs_append_cons hblank.1, runs_sep_append hblank.2,
    runs_of_forall h.word_ne_nil h.ink, words_eq_runs, List.singleton_append]

theorem gaps_eq (h : Leads word gap rest) : gaps (word ++ (gap ++ rest)) = gap :: gaps rest := by
  rw [gaps, gaps, h.trimmed.trim_eq, h.rest_trimmed.trim_eq]
  obtain ⟨c, rest, rfl⟩ := List.exists_cons_of_ne_nil h.rest_ne_nil
  have hc : (!isBlank c) = true := by rw [h.rest_trimmed.head c rfl, Bool.not_false]
  have hword : ∀ c ∈ word, (!isBlank c) = true := fun c hc => by rw [h.ink c hc, Bool.not_false]
  have hgap : ∀ c ∈ gap, (!isBlank c) = false := fun c hc => by rw [h.blank c hc, Bool.not_true]
  have hrest : runs (fun c => !isBlank c) ([c] ++ rest) = runs (fun c => !isBlank c) rest :=
    runs_sep_append (by simpa using hc) rest
  rw [runs_sep_append hword, runs_append_cons hc, runs_of_forall h.gap_ne_nil hgap, ← hrest]
  rfl

end Leads

/-- The first word of a text, and what follows from the first blank on. -/
theorem exists_ink_append (t : Text) :
    ∃ word tail, (∀ c ∈ word, isBlank c = false) ∧ t = word ++ tail ∧
      ∀ c, tail.head? = some c → isBlank c = true := by
  refine ⟨t.takeWhile fun c => !isBlank c, t.dropWhile fun c => !isBlank c, ?_,
    (List.takeWhile_append_dropWhile ..).symm, ?_⟩
  · intro c hc
    have hink := List.all_eq_true.1 List.all_takeWhile c hc
    simpa using hink
  · intro c hc
    have hhead := List.head?_dropWhile_not (fun c => !isBlank c) t
    simpa [hc] using hhead

/-- A trimmed text is a single word, or it has a first word with a gap behind it. -/
theorem Trimmed.ink_or_leads {t : Text} (ht : Trimmed t) :
    (∀ c ∈ t, isBlank c = false) ∨
      ∃ word gap rest, t = word ++ (gap ++ rest) ∧ Leads word gap rest := by
  obtain ⟨word, tail, hword, rfl, htail⟩ := exists_ink_append t
  cases tail with
  | nil => exact .inl (by rwa [List.append_nil])
  | cons c u =>
    have hc : isBlank c = true := htail c rfl
    obtain ⟨gap, hgap, hsplit, hhead⟩ := exists_trimStart u
    have hblank : ∀ c' ∈ c :: gap, isBlank c' = true := List.forall_mem_cons.2 ⟨hc, hgap⟩
    have hlast : ∀ c', (c :: u).getLast? = some c' → isBlank c' = false := by
      intro c' hc'
      apply ht.last
      rw [List.getLast?_append, hc', Option.some_or]
    refine .inr ⟨word, c :: gap, trimStart u, by rw [List.cons_append, ← hsplit], ?_, hword,
      by simp, hblank, ?_, hhead, ?_⟩
    · rintro rfl
      rw [ht.head c rfl] at hc
      simp at hc
    · -- The text does not end in the gap.
      intro hnil
      rw [hnil, List.append_nil] at hsplit
      have hend := hblank _ (List.getLast_mem (List.cons_ne_nil c gap))
      rw [hlast _ (by rw [hsplit, List.getLast?_eq_some_getLast])] at hend
      simp at hend
    · intro c' hc'
      apply hlast
      rw [hsplit, ← List.cons_append, List.getLast?_append, hc', Option.some_or]

/-- What holds of single words and is passed on by a first word holds of every trimmed text. -/
@[elab_as_elim]
theorem Trimmed.induction {motive : Text → Prop}
    (ink : ∀ t, (∀ c ∈ t, isBlank c = false) → motive t)
    (leads : ∀ word gap rest, Leads word gap rest → motive rest → motive (word ++ (gap ++ rest)))
    {t : Text} (ht : Trimmed t) : motive t := by
  induction hlength : t.length using Nat.strongRecOn generalizing t with
  | ind n ih =>
    rcases ht.ink_or_leads with hink | ⟨word, gap, rest, rfl, h⟩
    · exact ink t hink
    · have hword := List.length_pos_iff.2 h.word_ne_nil
      refine leads word gap rest h (ih rest.length ?_ h.rest_trimmed rfl)
      simp only [List.length_append] at hlength
      omega

/-- A text is made of its words and gaps. -/
theorem weave_words_gaps (t : Text) : weave (words t) (gaps t) = trim t := by
  rw [← words_trim, ← gaps_trim]
  refine (trimmed_trim t).induction ?_ ?_
  · intro u hu
    cases u with
    | nil => rfl
    | cons c u => rw [words_of_ink (by simp) hu, gaps_of_ink hu, weave, weave, List.append_nil]
  · intro word gap rest h ih
    rw [h.words_eq, h.gaps_eq, weave, ih]

/-- A text that ends in no blank is its indentation and its trimmed part. -/
theorem takeWhile_append_trim {t : Text} (h : ∀ c, t.getLast? = some c → isBlank c = false) :
    t.takeWhile isBlank ++ trim t = t := by
  have hsplit : t.takeWhile isBlank ++ trimStart t = t := List.takeWhile_append_dropWhile ..
  have hlast : ∀ c, (trimStart t).getLast? = some c → isBlank c = false := by
    intro c hc
    apply h
    rw [← hsplit, List.getLast?_append, hc, Option.some_or]
  rw [trim, trimEnd_of_last hlast, hsplit]

/-- Indentation, words and gaps determine a text that ends in no blank. -/
theorem eq_of_words_gaps {t u : Text} (ht : ∀ c, t.getLast? = some c → isBlank c = false)
    (hu : ∀ c, u.getLast? = some c → isBlank c = false)
    (hindent : t.takeWhile isBlank = u.takeWhile isBlank) (hwords : words t = words u)
    (hgaps : gaps t = gaps u) : t = u := by
  calc t = t.takeWhile isBlank ++ weave (words t) (gaps t) := by
        rw [weave_words_gaps, takeWhile_append_trim ht]
    _ = u.takeWhile isBlank ++ weave (words u) (gaps u) := by rw [hindent, hwords, hgaps]
    _ = u := by rw [weave_words_gaps, takeWhile_append_trim hu]

end DiagramStudio.Text
