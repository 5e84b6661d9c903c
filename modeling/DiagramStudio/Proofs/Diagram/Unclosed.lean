import DiagramStudio.Proofs.Diagram.Preamble
import DiagramStudio.Proofs.Diagram.Untagged

/-!
# Replies that were cut off

A reply that is cut off within its diagram has a fence that is never closed. Nothing is extracted
from it, so the whole reply is repaired. If nothing but blanks stand before the fence, it is stripped
from the source; else the fence is one more line of the preamble, which alignment drops. Either way
the diagram is repaired as if it stood alone.

## Main definitions

- `Repair.cutOff`: a reply with an opening fence but no closing one
- `Repair.Introduction`: what a reply may say before its diagram
- `Repair.Headed`: a text without fences whose first line with ink is a directive
-/

namespace DiagramStudio

open Text Dialect Layout

/-! ## A fence that is never closed -/

namespace Fence

/-- Nothing is found behind a fence that is never closed. -/
theorem block?_of_unclosed (accepts : Text → Bool) {prose tag body : Text}
    (hended : prose = [] ∨ prose.getLast? = some '\n') (hprose : ¬ mark <:+: prose)
    (hnewline : '\n' ∉ tag) (hbacktick : '\x60' ∉ tag) (hbody : ¬ mark <:+: body) :
    block? accepts (prose ++ (mark ++ (tag ++ '\n' :: body))) = none := by
  have hfence : block? accepts (mark ++ (tag ++ '\n' :: body)) = none := by
    rw [block?_mark, cut?_append_cons hnewline]
    dsimp only
    rw [closedBody?_of_unmarked hbody, ite_self,
      (passed_of_unmarked (not_infix_of_not_mem hbacktick)).next, (passed_of_unmarked hbody).last]
  rcases hended with rfl | hlast
  · exact hfence
  · obtain ⟨lines, rfl⟩ := List.getLast?_eq_some_iff.1 hlast
    have hlines : ¬ mark <:+: lines :=
      fun h => hprose (h.trans ⟨[], ['\n'], by simp⟩)
    rw [List.append_assoc, List.singleton_append, (passed_of_unmarked hlines).next, hfence]

/-- A fence that is never closed is stripped with its line. -/
theorem strip_of_unclosed {tag body : Text} (hnewline : '\n' ∉ tag) (hbody : ¬ mark <:+: body) :
    strip (mark ++ (tag ++ '\n' :: body)) = trim body := by
  have hstart : stripStart? mark (mark ++ (tag ++ '\n' :: body)) = some (tag ++ '\n' :: body) :=
    stripStart?_eq_some_iff.2 rfl
  obtain ⟨v, hv, hend, -⟩ := exists_trimEnd body
  have hkept : ¬ mark <:+: trimEnd body := fun h => hbody (h.trans (trimEnd_isInfix body))
  rw [strip, hstart]
  dsimp only
  rw [cut?_append_cons hnewline]
  simp only [Option.map_some, Option.getD_some]
  rw [stripClosing_of_unmarked hkept]
  conv_rhs => rw [hend, trim_append_blank hv]

end Fence

namespace Repair

open Separator

/-- What a reply may say before its diagram: whole lines that hold no fence, declare nothing and
open no span. -/
structure Introduction (prose : Text) : Prop where
  ended : prose = [] ∨ prose.getLast? = some '\n'
  mark : ¬ Fence.mark <:+: normalize prose
  directive : ∀ line ∈ segmentLines (normalize prose), isDirective line = false
  opener : ∀ d : Delimiter, d.opener ∉ normalize prose

/-- A text without fences whose first line with ink is a directive. -/
structure Headed (body : Text) : Prop where
  mark : ¬ Fence.mark <:+: normalize body
  directive : ∃ line, (segmentLines (normalize body)).find? (fun line => !blank line) = some line ∧
    isDirective line = true

variable {prose body : Text}

theorem Headed.exists_leading? (h : Headed body) :
    ∃ dialect, leading? (trim (normalize body)) = some dialect := by
  obtain ⟨line, hline, hdirective⟩ := h.directive
  rw [leading?_trim hline]
  exact Option.isSome_iff_exists.1 hdirective

theorem Headed.source_eq (h : Headed body) : source body = trim (normalize body) :=
  Fence.strip_of_not_prefix fun hmark => h.mark (hmark.isInfix.trans (trim_isInfix _))

/-- A reply with an opening fence but no closing one. -/
def cutOff (prose body : Text) : Text :=
  prose ++ (Fence.mark ++ (Fence.diagramTag ++ '\n' :: body))

theorem extract_cutOff (hprose : Introduction prose) (hbody : Headed body) :
    Fence.extract (cutOff prose body) = trim (cutOff prose body) := by
  have hnone : ∀ accepts, Fence.block? accepts (cutOff prose body) = none := by
    intro accepts
    exact Fence.block?_of_unclosed accepts hprose.ended
      (fun h => hprose.mark (mark_infix_normalize h)) (by decide) (by decide)
      fun h => hbody.mark (mark_infix_normalize h)
  rw [Fence.extract, hnone, hnone]

theorem normalize_cutOff (prose body : Text) :
    normalize (cutOff prose body) = cutOff (normalize prose) (normalize body) := by
  have hplain : normalize (Fence.mark ++ (Fence.diagramTag ++ ['\n'])) =
      Fence.mark ++ (Fence.diagramTag ++ ['\n']) := by decide
  have hfence := normalize_append (t := Fence.mark ++ (Fence.diagramTag ++ ['\n'])) (u := body)
    fun h => absurd h (by decide)
  rw [hplain] at hfence
  rw [cutOff, normalize_append fun _ => by simp [Fence.mark], cutOff]
  simpa using hfence

/-- An introduction with ink goes up to the fence with preliminary lines. -/
theorem Introduction.exists_eq (h : Introduction prose)
    (hink : ¬ ∀ c ∈ normalize prose, isBlank c = true) :
    ∃ i front, (∀ c ∈ i, isBlank c = true) ∧ normalize prose = i ++ (front ++ ['\n']) ∧
      front ≠ [] ∧ (∀ c, front.head? = some c → isBlank c = false) ∧
      ∀ line ∈ segmentLines front, Preliminary line := by
  obtain ⟨i, hi, hprose, hhead⟩ := exists_trimStart (normalize prose)
  have hne : trimStart (normalize prose) ≠ [] := by
    intro hnil
    rw [hnil, List.append_nil] at hprose
    exact hink (hprose ▸ hi)
  have hlast : (trimStart (normalize prose)).getLast? = some '\n' := by
    rcases h.ended with rfl | hlast
    · exact absurd (fun c hc => absurd hc List.not_mem_nil) hink
    · obtain ⟨lines, hlines⟩ := List.getLast?_eq_some_iff.1 hlast
      obtain ⟨u, hu⟩ := exists_normalize_append_newline lines
      rw [← List.getLast?_append_of_ne_nil i hne, ← hprose, hlines, hu, List.getLast?_concat]
  obtain ⟨front, hfront⟩ := List.getLast?_eq_some_iff.1 hlast
  rw [hfront] at hprose hhead
  have hnone : detect? (front ++ ['\n']) = none := by
    rw [← detect?_blank_append hi, ← hprose, detect?_eq, List.findSome?_eq_none_iff]
    intro line hline
    simpa [isDirective] using h.directive line hline
  have hfrontne : front ≠ [] := by
    rintro rfl
    exact absurd (hhead '\n' rfl) (by decide)
  refine ⟨i, front, hi, hprose, hfrontne, ?_, ?_⟩
  · intro c hc
    exact hhead c (by rw [List.head?_append, hc]; rfl)
  · intro line hline
    refine ⟨newline_not_mem_of_mem_segmentLines hline, ?_, ?_⟩
    · intro d hd
      refine h.opener d ?_
      rw [hprose]
      have hmem := mem_of_mem_segmentLines hline hd
      simp [hmem]
    · rw [detect?_eq, segmentLines_append_newline, List.findSome?_eq_none_iff] at hnone
      rw [isDirective, hnone line (List.mem_append_left _ hline)]
      rfl

theorem preliminary_fence : Preliminary (Fence.mark ++ Fence.diagramTag) where
  newline := by decide
  opener d := by cases d <;> decide
  directive := by decide

theorem Headed.source_ne_nil (h : Headed body) : source body ≠ [] := by
  obtain ⟨dialect, hleading⟩ := h.exists_leading?
  rw [← h.source_eq] at hleading
  intro hnil
  have hnone : leading? [] = none := by decide
  rw [hnil, hnone] at hleading
  simp at hleading

/-- The normalized body is its source between two runs of blanks. -/
theorem Headed.exists_eq (h : Headed body) :
    ∃ w v, (∀ c ∈ w, isBlank c = true) ∧ (∀ c ∈ v, isBlank c = true) ∧
      normalize body = w ++ source body ++ v ∧ ¬ Fence.mark <:+: w ++ source body := by
  obtain ⟨w, v, hw, hv, hnormal, -⟩ := exists_trim (normalize body)
  rw [← h.source_eq, ← List.append_assoc] at hnormal
  exact ⟨w, v, hw, hv, hnormal, fun hmark => h.mark (hmark.trans ⟨[], v, by rw [hnormal]; rfl⟩)⟩

theorem Headed.trimmed_append (h : Headed body) {t : Text} (hne : t ≠ [])
    (hhead : ∀ c, t.head? = some c → isBlank c = false) : Trimmed (t ++ source body) where
  head c hc := by
    obtain ⟨d, u, rfl⟩ := List.exists_cons_of_ne_nil hne
    exact hhead c hc
  last c hc := by
    rw [List.getLast?_append_of_ne_nil _ h.source_ne_nil] at hc
    exact (trimmed_source body).last c hc

/-- A fence that comes first is stripped. -/
theorem source_cutOff_of_blank (hprose : ∀ c ∈ normalize prose, isBlank c = true)
    (hbody : Headed body) : source (cutOff prose body) = source body := by
  obtain ⟨w, v, hw, hv, hnormal, hmark⟩ := hbody.exists_eq
  have hfence : Trimmed (Fence.mark ++ (Fence.diagramTag ++ '\n' :: (w ++ source body))) := by
    have hhead : ∀ c, (Fence.mark ++ (Fence.diagramTag ++ '\n' :: w)).head? = some c →
        isBlank c = false := by
      intro c hc
      obtain rfl : '\x60' = c := Option.some.inj hc
      decide
    simpa using hbody.trimmed_append (by simp [Fence.mark]) hhead
  have hcode : normalize (cutOff prose body) =
      normalize prose ++ (Fence.mark ++ (Fence.diagramTag ++ '\n' :: (w ++ source body)) ++ v) := by
    rw [normalize_cutOff, cutOff, hnormal]
    simp
  rw [source, hcode, trim_append hprose hv hfence, Fence.strip_of_unclosed (by decide) hmark,
    trim_blank_append hw, (trimmed_source body).trim_eq]

/-- Behind an introduction with ink the fence is one more preliminary line. -/
theorem source_cutOff_of_ink (hprose : Introduction prose)
    (hink : ¬ ∀ c ∈ normalize prose, isBlank c = true) (hbody : Headed body) :
    ∃ front w, (∀ line ∈ segmentLines front, Preliminary line) ∧ (∀ c ∈ w, isBlank c = true) ∧
      source (cutOff prose body) = front ++ '\n' :: (w ++ source body) := by
  obtain ⟨w, v, hw, hv, hnormal, -⟩ := hbody.exists_eq
  obtain ⟨i, lines, hi, hlines, hne, hhead, hpreliminary⟩ := hprose.exists_eq hink
  have hunmarked : ¬ Fence.mark <:+: lines := by
    refine fun h => hprose.mark (h.trans ⟨i, ['\n'], ?_⟩)
    rw [hlines, List.append_assoc]
  have htext : Trimmed (lines ++ '\n' ::
      (Fence.mark ++ (Fence.diagramTag ++ '\n' :: (w ++ source body)))) := by
    have hhead' : ∀ c, (lines ++ '\n' :: (Fence.mark ++ (Fence.diagramTag ++ '\n' :: w))).head? =
        some c → isBlank c = false := by
      intro c hc
      obtain ⟨d, u, rfl⟩ := List.exists_cons_of_ne_nil hne
      exact hhead c hc
    simpa using hbody.trimmed_append (by simp) hhead'
  have hcode : normalize (cutOff prose body) = i ++ (lines ++ '\n' ::
      (Fence.mark ++ (Fence.diagramTag ++ '\n' :: (w ++ source body))) ++ v) := by
    rw [normalize_cutOff, cutOff, hnormal, hlines]
    simp
  refine ⟨lines ++ '\n' :: (Fence.mark ++ Fence.diagramTag), w, ?_, hw, ?_⟩
  · rw [segmentLines_append_newline, List.forall_mem_append,
      segmentLines_of_not_mem preliminary_fence.newline, List.forall_mem_singleton]
    exact ⟨hpreliminary, preliminary_fence⟩
  · rw [source, hcode, trim_append hi hv htext, Fence.strip_of_not_prefix]
    · simp
    · exact fun h => hunmarked (Fence.mark_prefix_of_append_newline h).isInfix

/-- A reply that was cut off within its diagram loses nothing of it. -/
theorem repair_extract_cutOff (hprose : Introduction prose) (hbody : Headed body) :
    repair (Fence.extract (cutOff prose body)) = repair body := by
  rw [extract_cutOff hprose hbody, repair_trim, repair_eq, repair_eq]
  by_cases hblank : ∀ c ∈ normalize prose, isBlank c = true
  · rw [source_cutOff_of_blank hblank hbody]
  · obtain ⟨front, w, hfront, hw, hsource⟩ := source_cutOff_of_ink hprose hblank hbody
    obtain ⟨dialect, hleading⟩ := hbody.exists_leading?
    rw [← hbody.source_eq] at hleading
    rw [hsource, trim_repairedLines_append hfront hw hleading]

theorem repair_extract_cutOff_classes :
    cutOff "class Diagram\nHere it is:\r\n".toList
        "\n  classDiagram\nclass A \x7b\n  x: int".toList =
      "class Diagram\nHere it is:\r\n```mermaid\n\n  classDiagram\nclass A \x7b\n  x: int".toList ∧
    Introduction "class Diagram\nHere it is:\r\n".toList ∧
      Headed "\n  classDiagram\nclass A \x7b\n  x: int".toList ∧
      repair (Fence.extract (cutOff "class Diagram\nHere it is:\r\n".toList
          "\n  classDiagram\nclass A \x7b\n  x: int".toList)) =
        repair "\n  classDiagram\nclass A \x7b\n  x: int".toList := by
  have hprose : Introduction "class Diagram\nHere it is:\r\n".toList :=
    ⟨by decide, by decide, by decide, fun d => by cases d <;> decide⟩
  have hbody : Headed "\n  classDiagram\nclass A \x7b\n  x: int".toList :=
    ⟨by decide, "  classDiagram".toList, by decide, by decide⟩
  exact ⟨by decide, hprose, hbody, repair_extract_cutOff hprose hbody⟩

end Repair

end DiagramStudio
