import DiagramStudio.Diagram.Fence
import DiagramStudio.Diagram.Repair
import DiagramStudio.Diagram.Separator
import DiagramStudio.Proofs.Text.Blank
import Mathlib.Data.List.Infix

/-!
# The source to repair

The source of a reply is trimmed and holds `Plain` characters only: no carriage return, no other
line separator, no space that forbids a break and no character without width. A text that is plain
and trimmed and starts with no backtick is its own source.
-/

namespace DiagramStudio

open Text

/-! ## Separators -/

namespace Separator

/-- The characters that normalizing separators keeps. -/
def isPlain (c : Char) : Bool :=
  c != '\r' && !isLineSeparator c && !isFixedSpace c && !isWidthless c

/-- A text of plain characters. -/
def Plain (t : Text) : Prop := ∀ c ∈ t, isPlain c = true

theorem spell_of_isPlain {c : Char} (h : isPlain c = true) : spell c = [c] := by
  simp only [isPlain, Bool.and_eq_true, Bool.not_eq_eq_eq_not, Bool.not_true] at h
  simp [spell, h]

theorem isBlank_of_isLineSeparator {c : Char} (h : isLineSeparator c = true) :
    isBlank c = true := by
  simp only [isLineSeparator, Bool.or_eq_true, beq_iff_eq] at h
  rcases h with (rfl | rfl) | rfl <;> decide

theorem isBlank_of_isFixedSpace {c : Char} (h : isFixedSpace c = true) : isBlank c = true := by
  simp only [isFixedSpace, Bool.or_eq_true, beq_iff_eq] at h
  rcases h with (rfl | rfl) | rfl <;> decide

/-- Of the characters that are spaces or no blanks, only the widthless ones are not kept. -/
theorem spell_of_space {c : Char} (h : isBlank c = true → c = ' ') :
    spell c = if isWidthless c then [] else [c] := by
  have hline : isLineSeparator c = false := by
    cases hc : isLineSeparator c with
    | false => rfl
    | true =>
      obtain rfl := h (isBlank_of_isLineSeparator hc)
      exact absurd hc (by decide)
  have hfixed : isFixedSpace c = false := by
    cases hc : isFixedSpace c with
    | false => rfl
    | true =>
      obtain rfl := h (isBlank_of_isFixedSpace hc)
      exact absurd hc (by decide)
  rw [spell, hline, hfixed]
  rfl

theorem unifyLineEnds_cons_of_ne {c : Char} (hc : c ≠ '\r') (t : Text) :
    unifyLineEnds (c :: t) = c :: unifyLineEnds t := by
  rw [unifyLineEnds, if_neg hc]
  intro _ h
  exact absurd h hc

theorem unifyLineEnds_of_not_mem {t : Text} (h : '\r' ∉ t) : unifyLineEnds t = t := by
  induction t with
  | nil => rfl
  | cons c t ih =>
    rw [List.mem_cons, not_or] at h
    rw [unifyLineEnds_cons_of_ne (Ne.symm h.1), ih h.2]

theorem unifyLineEnds_of_plain {t : Text} (h : Plain t) : unifyLineEnds t = t := by
  refine unifyLineEnds_of_not_mem fun hr => ?_
  exact absurd (h '\r' hr) (by decide)

theorem normalize_of_plain {t : Text} (h : Plain t) : normalize t = t := by
  rw [normalize, unifyLineEnds_of_plain h]
  induction t with
  | nil => rfl
  | cons c t ih =>
    rw [List.flatMap_cons, spell_of_isPlain (h c (List.mem_cons_self ..)),
      ih fun c' hc' => h c' (List.mem_cons_of_mem c hc')]
    rfl

/-- A text without blanks other than spaces only loses its widthless characters. -/
theorem normalize_of_spaces {t : Text} (h : ∀ c ∈ t, isBlank c = true → c = ' ') :
    normalize t = t.filter fun c => !isWidthless c := by
  have hr : '\r' ∉ t := fun hr => absurd (h '\r' hr (by decide)) (by decide)
  rw [normalize, unifyLineEnds_of_not_mem hr]
  induction t with
  | nil => rfl
  | cons c t ih =>
    rw [List.forall_mem_cons] at h
    rw [List.mem_cons, not_or] at hr
    rw [List.flatMap_cons, ih h.2 hr.2, spell_of_space h.1]
    cases hc : isWidthless c <;> simp [hc]

/-- No carriage return is left, and nothing but newlines is added. -/
theorem mem_unifyLineEnds {t : Text} {c : Char} (h : c ∈ unifyLineEnds t) :
    c ≠ '\r' ∧ (c ∈ t ∨ c = '\n') := by
  induction t using unifyLineEnds.induct with
  | case1 => simp [unifyLineEnds] at h
  | case2 t ih =>
    rw [unifyLineEnds] at h
    rcases List.mem_cons.1 h with rfl | h
    · exact ⟨by decide, .inr rfl⟩
    · obtain ⟨hne, hmem⟩ := ih h
      exact ⟨hne, hmem.imp_left fun h => by simp [h]⟩
  | case3 c' t hne ih =>
    rw [unifyLineEnds.eq_3 _ _ hne] at h
    rcases List.mem_cons.1 h with rfl | h
    · split
      · exact ⟨by decide, .inr rfl⟩
      · next hc => exact ⟨hc, .inl (List.mem_cons_self ..)⟩
    · obtain ⟨hne, hmem⟩ := ih h
      exact ⟨hne, hmem.imp_left (List.mem_cons_of_mem c')⟩

theorem plain_normalize (t : Text) : Plain (normalize t) := by
  intro c hc
  obtain ⟨c', hc', hspell⟩ := List.mem_flatMap.1 hc
  have hne := (mem_unifyLineEnds hc').1
  rw [spell] at hspell
  split at hspell
  · obtain rfl := List.mem_singleton.1 hspell
    decide
  · split at hspell
    · obtain rfl := List.mem_singleton.1 hspell
      decide
    · split at hspell
      · simp at hspell
      · obtain rfl := List.mem_singleton.1 hspell
        simp_all [isPlain]

/-- Normalizing a blank text leaves it blank. -/
theorem blank_normalize {t : Text} (h : ∀ c ∈ t, isBlank c = true) :
    ∀ c ∈ normalize t, isBlank c = true := by
  have hunified : ∀ c ∈ unifyLineEnds t, isBlank c = true := by
    intro c hc
    rcases (mem_unifyLineEnds hc).2 with hc | rfl
    · exact h c hc
    · exact isBlank_newline
  intro c hc
  obtain ⟨c', hc', hspell⟩ := List.mem_flatMap.1 hc
  rw [spell] at hspell
  split at hspell
  · obtain rfl := List.mem_singleton.1 hspell
    exact isBlank_newline
  · split at hspell
    · obtain rfl := List.mem_singleton.1 hspell
      exact isBlank_space
    · split at hspell
      · simp at hspell
      · obtain rfl := List.mem_singleton.1 hspell
        exact hunified c hc'

/-- Only a carriage return before a newline is read together with it. -/
theorem unifyLineEnds_append {t u : Text} (h : t.getLast? = some '\r' → u.head? ≠ some '\n') :
    unifyLineEnds (t ++ u) = unifyLineEnds t ++ unifyLineEnds u := by
  induction t using unifyLineEnds.induct with
  | case1 => rfl
  | case2 t ih =>
    have ht : t.getLast? = some '\r' → u.head? ≠ some '\n' := by
      intro hlast
      exact h (by simp [List.getLast?_cons, hlast])
    rw [List.cons_append, List.cons_append, unifyLineEnds, unifyLineEnds, ih ht, List.cons_append]
  | case3 c t hne ih =>
    have ht : t.getLast? = some '\r' → u.head? ≠ some '\n' := by
      intro hlast
      exact h (by simp [List.getLast?_cons, hlast])
    have hne' : ∀ v, c = '\r' → t ++ u = '\n' :: v → False := by
      intro v hc hv
      cases t with
      | nil =>
        rw [List.nil_append] at hv
        exact h (by rw [hc]; rfl) (by rw [hv]; rfl)
      | cons d t => exact hne t hc (by rw [(List.cons.inj hv).1])
    rw [List.cons_append, unifyLineEnds.eq_3 _ _ hne', unifyLineEnds.eq_3 _ _ hne, ih ht,
      List.cons_append]

theorem normalize_append {t u : Text} (h : t.getLast? = some '\r' → u.head? ≠ some '\n') :
    normalize (t ++ u) = normalize t ++ normalize u := by
  rw [normalize, unifyLineEnds_append h, List.flatMap_append, normalize, normalize]

/-- Normalizing keeps a newline at the end. -/
theorem exists_normalize_append_newline (t : Text) :
    ∃ u, normalize (t ++ ['\n']) = u ++ ['\n'] := by
  by_cases hlast : t.getLast? = some '\r'
  · obtain ⟨s, rfl⟩ := List.getLast?_eq_some_iff.1 hlast
    refine ⟨normalize s, ?_⟩
    rw [List.append_assoc, normalize_append fun _ => by decide]
    rfl
  · refine ⟨normalize t, ?_⟩
    rw [normalize_append fun h => absurd h hlast]
    rfl

/-- Trimming a text first makes no difference to its normalized content. -/
theorem trim_normalize_trim (t : Text) : trim (normalize (trim t)) = trim (normalize t) := by
  obtain ⟨w, v, hw, hv, ht, htrim⟩ := exists_trim t
  by_cases hnil : trim t = []
  · have hblank := blank_normalize (blank_of_trim_eq_nil hnil)
    rw [hnil, trim_of_blank hblank]
    rfl
  · have hhead : ∀ x, (trim t ++ x).head? ≠ some '\n' := by
      intro x hx
      obtain ⟨c, y, hy⟩ := List.exists_cons_of_ne_nil hnil
      have hc := htrim.head c (by rw [hy]; rfl)
      rw [hy] at hx
      obtain rfl : c = '\n' := by simpa using hx
      exact absurd hc (by decide)
    have hlast : (trim t).getLast? ≠ some '\r' := by
      intro hlast
      exact absurd (htrim.last _ hlast) (by decide)
    conv_rhs => rw [ht, normalize_append fun _ => hhead v, normalize_append fun h => absurd h hlast]
    rw [trim_blank_append (blank_normalize hw), trim_append_blank (blank_normalize hv)]

/-- Normalizing moves no backtick away from another one. -/
theorem mark_infix_normalize {t : Text} (h : Fence.mark <:+: t) : Fence.mark <:+: normalize t := by
  obtain ⟨u, v, rfl⟩ := h
  have hmark : normalize (Fence.mark ++ v) = Fence.mark ++ normalize v := by
    have hplain : normalize Fence.mark = Fence.mark := by decide
    rw [normalize_append fun h => absurd h (by decide), hplain]
  refine ⟨normalize u, normalize v, ?_⟩
  rw [List.append_assoc, List.append_assoc, normalize_append fun _ => by simp [Fence.mark], hmark]

end Separator

/-! ## Fences -/

namespace Fence

theorem stripEnd?_isInfix (mark t : Text) : (stripEnd? mark t).getD t <:+: t := by
  cases h : stripEnd? mark t with
  | none => exact List.infix_rfl
  | some rest => exact ⟨[], mark, by simpa using (stripEnd?_eq_some_iff.1 h).symm⟩

theorem stripClosing_isInfix (body : Text) : stripClosing body <:+: body := by
  rw [stripClosing]
  split
  · next head last h =>
    split
    · exact ⟨[], '\n' :: last, by simpa using (cutLast?_eq_some h).1.symm⟩
    · exact stripEnd?_isInfix mark body
  · split
    · exact List.nil_infix
    · exact stripEnd?_isInfix mark body

theorem strip_isInfix (code : Text) : strip code <:+: code := by
  rw [strip]
  cases h : stripStart? mark code with
  | none => exact List.infix_rfl
  | some rest =>
    have hcode : code = mark ++ rest := stripStart?_eq_some_iff.1 h
    have hbody : ((cut? ['\n'] rest).map Prod.snd).getD [] <:+: rest := by
      cases hcut : cut? ['\n'] rest with
      | none => exact List.nil_infix
      | some parts => exact ⟨parts.1 ++ ['\n'], [], by simpa using (cut?_eq_some hcut).symm⟩
    calc trim (stripClosing (trimEnd (((cut? ['\n'] rest).map Prod.snd).getD [])))
        <:+: stripClosing (trimEnd (((cut? ['\n'] rest).map Prod.snd).getD [])) := trim_isInfix _
      _ <:+: trimEnd (((cut? ['\n'] rest).map Prod.snd).getD []) := stripClosing_isInfix _
      _ <:+: ((cut? ['\n'] rest).map Prod.snd).getD [] := trimEnd_isInfix _
      _ <:+: rest := hbody
      _ <:+: code := ⟨mark, [], by simp [hcode]⟩

theorem trimmed_strip {code : Text} (h : Trimmed code) : Trimmed (strip code) := by
  rw [strip]
  split
  · exact h
  · exact trimmed_trim _

theorem strip_of_not_prefix {code : Text} (h : ¬ mark <+: code) : strip code = code := by
  rw [strip, stripStart?_eq_none_iff.2 h]

theorem stripClosing_of_unmarked {body : Text} (h : ¬ mark <:+: body) :
    stripClosing body = body := by
  have hend : stripEnd? mark body = none :=
    stripEnd?_eq_none_iff.2 fun hmark => h hmark.isInfix
  rw [stripClosing, hend]
  cases hcut : cutLast? '\n' body with
  | none =>
    have htrim : trim body ≠ mark := fun heq => h (heq ▸ trim_isInfix body)
    simp [htrim]
  | some parts =>
    have hlast : trim parts.2 ≠ mark := by
      intro heq
      have hparts : parts.2 <:+: body :=
        ⟨parts.1 ++ ['\n'], [], by simpa using (cutLast?_eq_some hcut).1.symm⟩
      exact h (heq ▸ (trim_isInfix parts.2).trans hparts)
    simp [hlast]

/-- A text that starts with no backtick has no fence to strip. -/
theorem strip_of_head {code : Text} (h : code.head? ≠ some '\x60') : strip code = code := by
  refine strip_of_not_prefix ?_
  rintro ⟨rest, rfl⟩
  exact h rfl

end Fence

/-! ## The source -/

namespace Repair

open Separator

theorem trimmed_source (code : Text) : Trimmed (source code) :=
  Fence.trimmed_strip (trimmed_trim _)

theorem plain_source (code : Text) : Plain (source code) := by
  intro c hc
  have hpart : source code <:+: normalize code :=
    (Fence.strip_isInfix _).trans (trim_isInfix _)
  exact plain_normalize code c (hpart.subset hc)

/-- A plain, trimmed text without a fence is its own source. -/
theorem source_of_plain {t : Text} (hp : Plain t) (ht : Trimmed t) (hh : t.head? ≠ some '\x60') :
    source t = t := by
  rw [source, normalize_of_plain hp, ht.trim_eq, Fence.strip_of_head hh]

theorem source_of_blank {code : Text} (h : blank code = true) : source code = [] := by
  have hblank := blank_normalize (List.all_eq_true.1 h)
  rw [source, trim_of_blank hblank]
  rfl

/-- The passes leave nothing of a blank text, so that `repair` is one expression. -/
theorem repair_eq (code : Text) :
    repair code =
      trim (joinLines (repairedLines (Dialect.detect? (source code)) (source code))) := by
  rw [repair]
  split
  · next h =>
    rw [source_of_blank h]
    decide
  · rfl

theorem source_trim (code : Text) : source (trim code) = source code := by
  rw [source, trim_normalize_trim, source]

theorem repair_trim (code : Text) : repair (trim code) = repair code := by
  rw [repair_eq, source_trim, repair_eq]

end Repair

end DiagramStudio
