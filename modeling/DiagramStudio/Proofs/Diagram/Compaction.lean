import DiagramStudio.Proofs.Diagram.Layout
import DiagramStudio.Proofs.Text.Words

/-!
# Compacted lines

Compacting a text drops its blank lines and rewrites every other one. What is left of a line is
said here without the pass: the indentation stays, and so do the words in their order; only the
gaps between them change, and blanks at the end are lost. No other list of lines answers to this
description, and compacting the joined lines gives them again.

## Main definitions

- `Layout.Compacts`: a line and what is left of it
-/

namespace DiagramStudio.Layout

open Text

/-- A gap of one blank as it is, and a space for a longer one. -/
def narrowed (run : Text) : Text := if run.length = 1 then run else [' ']

/-- What is left of a line that is not blank. -/
structure Compacts (line compacted : Text) : Prop where
  indentation : compacted.takeWhile isBlank = line.takeWhile isBlank
  words : words compacted = words line
  gaps : gaps compacted = (gaps line).map narrowed
  last : ∀ c, compacted.getLast? = some c → isBlank c = false

/-! ## Words and gaps of squeezed texts -/

theorem gap_eq_narrowed {run : Text} (hne : run ≠ []) : gap run = narrowed run := by
  match run with
  | [] => exact absurd rfl hne
  | [_] => rfl
  | _ :: _ :: _ => simp [gap, narrowed]

theorem squeeze_ink_append {w : Text} (hw : ∀ c ∈ w, isBlank c = false) (t : Text) :
    squeeze [] (w ++ t) = w ++ squeeze [] t := by
  induction w with
  | nil => rfl
  | cons c w ih =>
    rw [List.forall_mem_cons] at hw
    rw [List.cons_append, squeeze_cons hw.1, ih hw.2]
    rfl

theorem squeeze_of_ink {w : Text} (hw : ∀ c ∈ w, isBlank c = false) : squeeze [] w = w := by
  have h := squeeze_ink_append hw []
  rwa [List.append_nil, squeeze, List.append_nil] at h

section

variable {word run rest : Text}

/-- The first gap is shortened, and squeezing goes on behind it. -/
theorem squeeze_of_leads (h : Leads word run rest) :
    squeeze [] (word ++ (run ++ rest)) = word ++ (gap run ++ squeeze [] rest) := by
  obtain ⟨c, rest, rfl⟩ := List.exists_cons_of_ne_nil h.rest_ne_nil
  have hc := h.rest_trimmed.head c rfl
  rw [squeeze_ink_append h.ink, squeeze_blank_append h.blank, List.nil_append, squeeze_cons hc,
    squeeze_cons hc]
  rfl

theorem leads_squeeze (h : Leads word run rest) : Leads word (gap run) (squeeze [] rest) where
  word_ne_nil := h.word_ne_nil
  ink := h.ink
  gap_ne_nil := gap_ne_nil h.gap_ne_nil
  blank := blank_gap h.blank
  rest_ne_nil := fun hnil => h.rest_ne_nil ((squeeze_eq_nil_iff h.rest_trimmed).1 hnil)
  rest_trimmed := trimmed_squeeze h.rest_trimmed

end

theorem words_squeeze {t : Text} (ht : Trimmed t) : words (squeeze [] t) = words t := by
  refine ht.induction ?_ ?_
  · intro w hw
    rw [squeeze_of_ink hw]
  · intro word run rest h ih
    rw [squeeze_of_leads h, (leads_squeeze h).words_eq, h.words_eq, ih]

theorem gaps_squeeze {t : Text} (ht : Trimmed t) :
    gaps (squeeze [] t) = (gaps t).map narrowed := by
  refine ht.induction ?_ ?_
  · intro w hw
    rw [squeeze_of_ink hw, gaps_of_ink hw, List.map_nil]
  · intro word run rest h ih
    rw [squeeze_of_leads h, (leads_squeeze h).gaps_eq, h.gaps_eq, ih, List.map_cons,
      gap_eq_narrowed h.gap_ne_nil]

/-! ## Compacted lines -/

theorem words_compactLine (line : Text) : words (compactLine line) = words line := by
  rw [← words_trim, trim_compactLine, words_squeeze (trimmed_trim line), words_trim]

theorem gaps_compactLine (line : Text) :
    gaps (compactLine line) = (gaps line).map narrowed := by
  rw [← gaps_trim, trim_compactLine, gaps_squeeze (trimmed_trim line), gaps_trim]

theorem compactLine_eq_nil_iff {line : Text} : compactLine line = [] ↔ blank line = true := by
  rcases compactLine_cases line with ⟨hblank, hnil⟩ | ⟨w, x, v, -, -, hx, hne, hline, hcompact⟩
  · exact ⟨fun _ => List.all_eq_true.2 hblank, fun _ => hnil⟩
  · refine ⟨fun hnil => ?_, fun hblank => ?_⟩
    · rw [hcompact, List.append_eq_nil_iff, squeeze_eq_nil_iff hx] at hnil
      exact absurd hnil.2 hne
    · obtain ⟨c, x, rfl⟩ := List.exists_cons_of_ne_nil hne
      have hc := List.all_eq_true.1 hblank c (by simp [hline])
      rw [hx.head c rfl] at hc
      simp at hc

theorem compacts_compactLine {line : Text} (h : blank line = false) :
    Compacts line (compactLine line) := by
  rcases compactLine_cases line with ⟨hblank, -⟩ | ⟨w, x, v, hw, -, hx, hne, hline, hcompact⟩
  · rw [blank, List.all_eq_true.2 hblank] at h
    simp at h
  · have hsq : squeeze [] x ≠ [] := fun hnil => hne ((squeeze_eq_nil_iff hx).1 hnil)
    refine ⟨?_, words_compactLine line, gaps_compactLine line, ?_⟩
    · have hhead : ∀ c, (x ++ v).head? = some c → isBlank c = false := by
        obtain ⟨c, x, rfl⟩ := List.exists_cons_of_ne_nil hne
        exact hx.head
      rw [hcompact, takeWhile_blank_append hw (trimmed_squeeze hx).head, hline,
        takeWhile_blank_append hw hhead]
    · rw [hcompact, List.getLast?_append_of_ne_nil _ hsq]
      exact (trimmed_squeeze hx).last

/-- Only one line is left of a line. -/
theorem Compacts.unique : Relator.RightUnique Compacts := by
  intro line t u ht hu
  exact eq_of_words_gaps ht.last hu.last (ht.indentation.trans hu.indentation.symm)
    (ht.words.trans hu.words.symm) (ht.gaps.trans hu.gaps.symm)

/-! ## Compacted texts -/

theorem compact_eq_map (code : Text) :
    compact code = ((segmentLines code).filter fun line => !blank line).map compactLine := by
  rw [compact, List.filter_map]
  congr 1
  refine List.filter_congr fun line _ => ?_
  rw [Function.comp_apply, Bool.eq_iff_iff]
  simp [compactLine_eq_nil_iff]

theorem forall₂_compacts (code : Text) :
    List.Forall₂ Compacts ((segmentLines code).filter fun line => !blank line) (compact code) := by
  rw [compact_eq_map, List.forall₂_map_right_iff, List.forall₂_same]
  intro line hline
  exact compacts_compactLine (by simpa using (List.mem_filter.1 hline).2)

theorem compact_joinLines_compact (code : Text) :
    compact (joinLines (compact code)) = compact code := by
  cases hlines : compact code with
  | nil => rfl
  | cons line lines =>
    have hcompact : ∀ l ∈ line :: lines, Compact l := fun l hl => compact_of_mem (hlines ▸ hl)
    have hsegments := segmentLines_joinLines (List.cons_ne_nil line lines)
      fun l hl => (hcompact l hl).newline
    rw [compact_of_forall (by rwa [hsegments]), hsegments]

/-- Compacting the joined lines gives the same lines again. The lines are what is left of those
that are not blank, in order, and they are the only ones. -/
theorem compact_spec (code : Text) :
    compact (joinLines (compact code)) = compact code ∧
      ∀ pieces, compact code = pieces ↔
        List.Forall₂ Compacts ((segmentLines code).filter fun line => !blank line) pieces := by
  refine ⟨compact_joinLines_compact code, fun pieces => ⟨?_, fun h => ?_⟩⟩
  · rintro rfl
    exact forall₂_compacts code
  · exact List.right_unique_forall₂' Compacts.unique (forall₂_compacts code) h

example :
    compact "\tA \u2003--> B\u00a0C  \n \u3000\nD".toList =
      ["\tA --> B\u00a0C".toList, "D".toList] := by
  decide +kernel

end DiagramStudio.Layout
