import DiagramStudio.Diagram.Fence
import DiagramStudio.Proofs.Text.Blank

/-!
# Fences that are stripped

A text that starts with a fence is stripped of it by the last line of what follows: a line that
holds nothing but a fence goes as a whole, and so does a sole line; a fence that ends any other line
is cut off there. But for blanks, which are trimmed away at the end, these ways are all one: below
the first line, blanks at the end do not count, and then one fence at the very end does not.

## Main definitions

- `Fence.belowFirstLine`: what follows the first line of a text
- `Fence.withoutFinalMark`: a text without a fence at its very end
-/

namespace DiagramStudio.Fence

open Text

/-- What follows the first newline; nothing, if there is none. -/
def belowFirstLine (t : Text) : Text := (t.dropWhile (· != '\n')).tail

/-- `t` without one fence at its very end. -/
def withoutFinalMark (t : Text) : Text :=
  if mark <:+ t then t.take (t.length - mark.length) else t

/-! ## The first line -/

theorem forall_ne_newline {t : Text} (h : '\n' ∉ t) : ∀ c ∈ t, (c != '\n') = true := by
  intro c hc
  rw [bne_iff_ne]
  rintro rfl
  exact h hc

theorem belowFirstLine_append_cons {line : Text} (h : '\n' ∉ line) (t : Text) :
    belowFirstLine (line ++ '\n' :: t) = t := by
  rw [belowFirstLine, List.dropWhile_append_of_pos (forall_ne_newline h),
    List.dropWhile_cons_of_neg (by simp), List.tail_cons]

theorem belowFirstLine_of_not_mem {t : Text} (h : '\n' ∉ t) : belowFirstLine t = [] := by
  have hnone : (t ++ []).dropWhile (· != '\n') = [] :=
    List.dropWhile_append_of_pos (forall_ne_newline h)
  rw [List.append_nil] at hnone
  rw [belowFirstLine, hnone, List.tail_nil]

theorem newline_not_mem_mark_append {t : Text} (h : '\n' ∉ t) : '\n' ∉ mark ++ t := by
  rw [List.mem_append, not_or]
  exact ⟨by decide, h⟩

/-- Behind an opening fence the first line goes on up to the same newline. -/
theorem belowFirstLine_mark_append (t : Text) :
    belowFirstLine (mark ++ t) = ((cut? ['\n'] t).map Prod.snd).getD [] := by
  by_cases h : '\n' ∈ t
  · obtain ⟨tag, body, rfl, htag⟩ := List.eq_append_cons_of_mem h
    rw [cut?_append_cons htag, ← List.append_assoc,
      belowFirstLine_append_cons (newline_not_mem_mark_append htag)]
    rfl
  · rw [cut?_of_not_mem h, belowFirstLine_of_not_mem (newline_not_mem_mark_append h)]
    rfl

/-! ## The last line -/

theorem withoutFinalMark_append_mark (t : Text) : withoutFinalMark (t ++ mark) = t := by
  rw [withoutFinalMark, if_pos (List.suffix_append t mark), List.length_append,
    Nat.add_sub_cancel, List.take_left]

theorem stripEnd?_mark_getD (t : Text) : (stripEnd? mark t).getD t = withoutFinalMark t := by
  cases h : stripEnd? mark t with
  | none => rw [withoutFinalMark, if_neg (stripEnd?_eq_none_iff.1 h), Option.getD_none]
  | some front => rw [stripEnd?_eq_some_iff.1 h, withoutFinalMark_append_mark, Option.getD_some]

/-- A line that holds a fence and blanks ends in the fence, if it does not end in a blank. -/
theorem exists_eq_append_mark {line : Text} (h : trim line = mark)
    (hlast : ∀ c, line.getLast? = some c → isBlank c = false) :
    ∃ w, (∀ c ∈ w, isBlank c = true) ∧ line = w ++ mark := by
  obtain ⟨w, v, hw, hv, hline, -⟩ := exists_trim line
  rw [h] at hline
  refine ⟨w, hw, ?_⟩
  rcases List.eq_nil_or_concat v with rfl | ⟨front, c, rfl⟩
  · rw [hline, List.append_nil]
  · have hend : line.getLast? = some c := by
      rw [hline, List.concat_eq_append, ← List.append_assoc, ← List.append_assoc]
      exact List.getLast?_concat
    have hblank := hv c (by simp)
    rw [hlast c hend] at hblank
    simp at hblank

/-- Which way a closing fence is cut off does not matter but for blanks. -/
theorem trim_stripClosing {t : Text} (h : ∀ c, t.getLast? = some c → isBlank c = false) :
    trim (stripClosing t) = trim (withoutFinalMark t) := by
  rw [stripClosing]
  split
  · next head last hcut =>
    split
    · next hmark =>
      have ht := (cutLast?_eq_some hcut).1
      have hlast : ∀ c, last.getLast? = some c → isBlank c = false := by
        intro c hc
        refine h c ?_
        rw [ht, List.getLast?_append, List.getLast?_cons, hc]
        rfl
      obtain ⟨w, hw, rfl⟩ := exists_eq_append_mark hmark hlast
      have hblank : ∀ c ∈ '\n' :: w, isBlank c = true :=
        List.forall_mem_cons.2 ⟨isBlank_newline, hw⟩
      rw [ht, ← List.cons_append, ← List.append_assoc, withoutFinalMark_append_mark,
        trim_append_blank hblank]
    · rw [stripEnd?_mark_getD]
  · split
    · next hmark =>
      obtain ⟨w, hw, rfl⟩ := exists_eq_append_mark hmark h
      rw [withoutFinalMark_append_mark, trim_of_blank hw]
      rfl
    · rw [stripEnd?_mark_getD]

/-! ## The rule -/

theorem strip_mark_append (t : Text) :
    strip (mark ++ t) = trim (withoutFinalMark (trimEnd (belowFirstLine (mark ++ t)))) := by
  have hstart : stripStart? mark (mark ++ t) = some t := stripStart?_eq_some_iff.2 rfl
  obtain ⟨_, _, _, hlast⟩ := exists_trimEnd (belowFirstLine (mark ++ t))
  rw [← trim_stripClosing hlast, belowFirstLine_mark_append, strip, hstart]

/-- What a fenced text is stripped to does not depend on the line that its closing fence is on. -/
theorem strip_fenced {tag w : Text} (htag : '\n' ∉ tag) (hw : ∀ c ∈ w, isBlank c = true)
    (body : Text) : strip (mark ++ (tag ++ '\n' :: (body ++ (mark ++ w)))) = trim body := by
  have hlast : ∀ c, (body ++ mark).getLast? = some c → isBlank c = false := by
    intro c hc
    rw [List.getLast?_append] at hc
    obtain rfl : '\x60' = c := Option.some.inj hc
    decide
  rw [strip_mark_append, ← List.append_assoc mark,
    belowFirstLine_append_cons (newline_not_mem_mark_append htag), ← List.append_assoc body,
    trimEnd_append_blank hw, trimEnd_of_last hlast, withoutFinalMark_append_mark]

/-- One rule for every text: without a fence at its start it is left alone, and otherwise it loses
its first line, one fence at the end of the rest, and the blanks around what is left. -/
theorem strip_eq_trim_withoutFinalMark :
    (∀ code, strip code = if mark <+: code
      then trim (withoutFinalMark (trimEnd (belowFirstLine code))) else code) ∧
    ∀ tag body w, '\n' ∉ tag → (∀ c ∈ w, isBlank c = true) →
      strip (mark ++ (tag ++ '\n' :: (body ++ (mark ++ w)))) = trim body := by
  refine ⟨?_, fun tag body w htag hw => strip_fenced htag hw body⟩
  intro code
  split
  · next h =>
    obtain ⟨t, rfl⟩ := h
    exact strip_mark_append t
  · next h => rw [strip, stripStart?_eq_none_iff.2 h]

/-- A body may end in a backtick of its own, with the closing fence right behind it. -/
theorem strip_eq_trim_withoutFinalMark_glued :
    '\n' ∉ "mermaid ".toList ∧ (∀ c ∈ " \n".toList, isBlank c = true) ∧
      Fence.mark ++ ("mermaid ".toList ++ '\n' :: ("\n graph TD\n  A`".toList ++
        (Fence.mark ++ " \n".toList))) = "```mermaid \n\n graph TD\n  A```` \n".toList ∧
      strip "```mermaid \n\n graph TD\n  A```` \n".toList = trim "\n graph TD\n  A`".toList := by
  have htag : '\n' ∉ "mermaid ".toList := by decide
  have hblank : ∀ c ∈ " \n".toList, isBlank c = true := List.all_eq_true.1 (by decide)
  exact ⟨htag, hblank, by decide,
    strip_eq_trim_withoutFinalMark.2 "mermaid ".toList "\n graph TD\n  A`".toList " \n".toList htag
      hblank⟩

end DiagramStudio.Fence
