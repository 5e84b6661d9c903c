import DiagramStudio.Proofs.Diagram.ClassLine
import DiagramStudio.Proofs.Diagram.Idempotence

/-!
# The shape of repaired diagrams

`WellShaped` collects what holds of every repaired diagram that is not empty, whatever it was
repaired from. No pass undoes what an earlier one established: the fold over a class diagram and
the passes over labels write plain characters, and alignment and balancing only drop lines.

## Main definitions

- `Layout.WellSpaced`: lines with ink, without trailing blanks and with lone blanks between words
- `Repair.WellShaped`: the shape of a whole diagram
-/

namespace DiagramStudio

open Text Dialect

/-! ## Plain texts -/

namespace Separator

theorem plain_append {t u : Text} : Plain (t ++ u) ↔ Plain t ∧ Plain u := List.forall_mem_append

theorem plain_of_all {t : Text} (h : t.all isPlain = true) : Plain t := List.all_eq_true.1 h

theorem Plain.subset {t u : Text} (h : Plain t) (hu : ∀ c ∈ u, c ∈ t) : Plain u :=
  fun c hc => h c (hu c hc)

theorem plain_joinLines {pieces : List Text} :
    Plain (joinLines pieces) ↔ ∀ piece ∈ pieces, Plain piece := by
  have hnewline : isPlain '\n' = true := by decide
  constructor
  · intro h piece hpiece c hc
    by_cases hn : c = '\n'
    · rwa [hn]
    · exact h c ((mem_joinLines_iff hn).2 ⟨piece, hpiece, hc⟩)
  · intro h c hc
    by_cases hn : c = '\n'
    · rwa [hn]
    · obtain ⟨piece, hpiece, hc⟩ := (mem_joinLines_iff hn).1 hc
      exact h piece hpiece c hc

end Separator

namespace ClassBlock

open Separator

/-- A state that holds plain texts. -/
def State.Plain (s : State) : Prop :=
  ∀ block ∈ s.block, Separator.Plain block.name ∧ ∀ line ∈ block.members, Separator.Plain line

theorem plain_statement {line : Text} (h : Plain line) : Plain (statement line) :=
  plain_append.2 ⟨plain_of_all (by decide), h⟩

theorem plain_memberLine {line : Text} (h : Plain line) : Plain (memberLine line) :=
  plain_append.2 ⟨plain_of_all (by decide), h⟩

theorem plain_keyword {name : Text} (h : Plain name) : Plain ("class ".toList ++ name) :=
  plain_append.2 ⟨plain_of_all (by decide), h⟩

theorem plain_written {block : OpenClass} (hname : Plain block.name)
    (hmembers : ∀ line ∈ block.members, Plain line) : ∀ line ∈ block.written, Plain line := by
  intro line hline
  rw [OpenClass.written] at hline
  split at hline
  · rw [List.mem_singleton.1 hline]
    exact plain_statement (plain_keyword hname)
  · rcases List.mem_append.1 hline with hline | hline
    · rcases List.mem_cons.1 hline with rfl | hline
      · exact plain_statement (plain_append.2 ⟨plain_keyword hname, plain_of_all (by decide)⟩)
      · obtain ⟨member, hmember, rfl⟩ := List.mem_map.1 hline
        exact plain_memberLine (hmembers member hmember)
    · rw [List.mem_singleton.1 hline]
      exact plain_statement (plain_of_all (by decide))

theorem State.Plain.flushed {s : State} (h : s.Plain) :
    ∀ line ∈ s.flushed, Separator.Plain line := by
  rw [State.flushed]
  cases hblock : s.block with
  | none => simp
  | some block =>
    obtain ⟨hname, hmembers⟩ := h block hblock
    exact plain_written hname hmembers

/-- Of a plain line nothing but plain characters is kept or written. -/
theorem plain_step {s : State} {line : Text} (hs : s.Plain) (hline : Separator.Plain line) :
    (step s line).1.Plain ∧ ∀ written ∈ (step s line).2, Separator.Plain written := by
  have hstatement := plain_statement hline
  have hflushed := hs.flushed
  have hnone : ∀ n, State.Plain ⟨none, n⟩ := by
    intro n block hblock
    simp at hblock
  rw [step]
  cases hkind : LineKind.of line with
  | directive => exact ⟨hs, by simpa using hline⟩
  | aside => exact ⟨hs, by simpa using hstatement⟩
  | header name =>
    obtain ⟨-, w, v, u, -, -, -, rfl⟩ := eq_of_kind_header hkind
    have hname : Separator.Plain name := hline.subset fun c hc => by simp [hc]
    refine ⟨?_, hflushed⟩
    intro block hblock
    obtain rfl := Option.some.inj hblock
    exact ⟨hname, by simp⟩
  | bare name =>
    obtain ⟨-, w, v, -, -, rfl⟩ := eq_of_kind_bare hkind
    have hname : Separator.Plain name := hline.subset fun c hc => by simp [hc]
    refine ⟨hnone _, List.forall_mem_append.2 ⟨hflushed, ?_⟩⟩
    simpa using plain_statement (plain_keyword hname)
  | otherClass =>
    exact ⟨hnone _, List.forall_mem_append.2 ⟨hflushed, by simpa using hstatement⟩⟩
  | closer =>
    cases s.block with
    | some block => exact ⟨hnone _, hflushed⟩
    | none =>
      dsimp only
      split
      · exact ⟨hs, by simp⟩
      · exact ⟨hnone _, by simpa using hstatement⟩
  | member =>
    cases hblock : s.block with
    | none => exact ⟨hnone _, by simpa using hstatement⟩
    | some block =>
      obtain ⟨hname, hmembers⟩ := hs block hblock
      refine ⟨?_, by simp⟩
      intro block' hblock'
      obtain rfl := Option.some.inj hblock'
      exact ⟨hname, List.forall_mem_append.2 ⟨hmembers, by simpa using hline⟩⟩
  | other =>
    cases s.block with
    | some block => exact ⟨hs, by simp⟩
    | none => exact ⟨hnone _, by simpa using hstatement⟩

theorem plain_run {s : State} {pieces : List Text} (hs : s.Plain)
    (h : ∀ piece ∈ pieces, Separator.Plain piece) :
    ∀ line ∈ run s pieces, Separator.Plain line := by
  induction pieces generalizing s with
  | nil => exact hs.flushed
  | cons piece pieces ih =>
    rw [List.forall_mem_cons] at h
    obtain ⟨hnext, hwritten⟩ := plain_step hs h.1
    rw [run]
    exact List.forall_mem_append.2 ⟨hwritten, ih hnext h.2⟩

/-- Rebuilding the blocks of a plain source leaves it plain. -/
theorem plain_rebuild {source : Text} (h : Separator.Plain source) :
    Separator.Plain (rebuild source) := by
  rw [← joinLines_segmentLines source, plain_joinLines] at h
  refine plain_joinLines.2 (plain_run ?_ ?_)
  · intro block hblock
    simp [State.start] at hblock
  · intro line hline
    obtain ⟨-, piece, hpiece, rfl⟩ := mem_inkedLines hline
    exact (h piece hpiece).subset (trim_isInfix piece).subset

end ClassBlock

/-! ## Lines and words -/

namespace Layout

/-- A line as a renderer expects it, up to its indentation. -/
structure WellSpaced (line : Text) : Prop where
  ink : ∃ c ∈ line, isBlank c = false
  last : ∀ c, line.getLast? = some c → isBlank c = false
  /-- A run of blanks between two characters that are not blank is a single one. -/
  gaps : ∀ u a w b v, line = u ++ a :: (w ++ b :: v) → isBlank a = false → isBlank b = false →
    (∀ c ∈ w, isBlank c = true) → w.length ≤ 1

theorem length_gap_le (run : Text) : (gap run).length ≤ run.length ∧ (gap run).length ≤ 1 := by
  match run with
  | [] => simp [gap]
  | [_] => simp [gap]
  | _ :: _ :: _ => simp [gap]

theorem length_squeeze_le (run t : Text) : (squeeze run t).length ≤ run.length + t.length := by
  induction t generalizing run with
  | nil => simp [squeeze]
  | cons c t ih =>
    cases hb : isBlank c with
    | true =>
      have := ih (run ++ [c])
      rw [squeeze, if_pos hb]
      simp only [List.length_append, List.length_cons, List.length_nil] at this ⊢
      omega
    | false =>
      have hgap := (length_gap_le run).1
      have := ih []
      rw [squeeze_cons hb]
      simp only [List.length_append, List.length_cons, List.length_nil] at this ⊢
      omega

/-- A character that is not blank separates what is squeezed before it from what follows. -/
theorem squeeze_append_cons {a : Char} (ha : isBlank a = false) (run u t : Text) :
    squeeze run (u ++ a :: t) = squeeze run (u ++ [a]) ++ squeeze [] t := by
  induction u generalizing run with
  | nil =>
    rw [List.nil_append, List.nil_append, squeeze_cons ha, squeeze_cons ha]
    simp [squeeze]
  | cons c u ih =>
    cases hb : isBlank c with
    | true => rw [List.cons_append, List.cons_append, squeeze, squeeze, if_pos hb, if_pos hb, ih]
    | false =>
      rw [List.cons_append, List.cons_append, squeeze_cons hb, squeeze_cons hb, ih]
      simp

/-- In a text that squeezing leaves as it is, blanks between words stand alone. -/
theorem length_le_one_of_squeeze {x u w v : Text} {a b : Char} (hx : squeeze [] x = x)
    (heq : x = u ++ a :: (w ++ b :: v)) (ha : isBlank a = false) (hb : isBlank b = false)
    (hw : ∀ c ∈ w, isBlank c = true) : w.length ≤ 1 := by
  have hsplit : squeeze [] x = squeeze [] (u ++ [a]) ++ (gap w ++ b :: squeeze [] v) := by
    rw [heq, squeeze_append_cons ha, squeeze_blank_append hw, List.nil_append, squeeze_cons hb]
  -- No part grows, so none may shrink either.
  have hlength := congrArg List.length (heq.symm.trans (hx.symm.trans hsplit))
  have hu := length_squeeze_le [] (u ++ [a])
  have hv := length_squeeze_le [] v
  have hgap := (length_gap_le w).2
  simp only [List.length_append, List.length_cons, List.length_nil] at hlength hu hv
  omega

/-- A squeezed text is well spaced, also behind an indentation. -/
theorem wellSpaced_append {i x : Text} (hi : ∀ c ∈ i, isBlank c = true) (ht : Trimmed x)
    (hne : x ≠ []) (hx : squeeze [] x = x) : WellSpaced (i ++ x) := by
  refine ⟨?_, ?_, ?_⟩
  · obtain ⟨c, y, rfl⟩ := List.exists_cons_of_ne_nil hne
    exact ⟨c, by simp, ht.head c rfl⟩
  · intro c hc
    rw [List.getLast?_append_of_ne_nil _ hne] at hc
    exact ht.last c hc
  · intro u a w b v heq ha hb hw
    rcases List.append_eq_append_iff.1 heq with ⟨z, rfl, hz⟩ | ⟨z, rfl, hz⟩
    · exact length_le_one_of_squeeze hx hz ha hb hw
    · -- The first character is no blank, so it is not part of the indentation.
      cases z with
      | nil => exact length_le_one_of_squeeze (u := []) hx (by simpa using hz.symm) ha hb hw
      | cons c z =>
        obtain ⟨rfl, -⟩ := List.cons.inj hz
        have hblank := hi a (by simp)
        rw [ha] at hblank
        simp at hblank

/-- A compact line is a squeezed text behind its indentation. -/
theorem Compact.exists_eq {line : Text} (h : Compact line) :
    ∃ i, (∀ c ∈ i, isBlank c = true) ∧ line = i ++ Text.trimStart line ∧
      Trimmed (Text.trimStart line) ∧ squeeze [] (Text.trimStart line) = Text.trimStart line := by
  have hkept := h.compacted
  rcases compactLine_cases line with ⟨-, hnil⟩ | ⟨i, x, v, hi, -, hx, hne, hline, hcompact⟩
  · exact absurd (hkept ▸ hnil) h.ne_nil
  · rw [hkept] at hcompact
    have hstart : Text.trimStart line = squeeze [] x := by
      rw [hcompact, trimStart_blank_append hi, trimStart_of_head (trimmed_squeeze hx).head]
    rw [hstart]
    exact ⟨i, hi, hcompact, trimmed_squeeze hx, squeeze_squeeze (by simp) x⟩

theorem Compact.wellSpaced {line : Text} (h : Compact line) : WellSpaced line := by
  obtain ⟨i, hi, hline, ht, hx⟩ := h.exists_eq
  rw [hline]
  exact wellSpaced_append hi ht h.trimStart.1 hx

theorem Compact.wellSpaced_trimStart {line : Text} (h : Compact line) :
    WellSpaced (Text.trimStart line) := by
  obtain ⟨i, -, -, ht, hx⟩ := h.exists_eq
  exact wellSpaced_append (i := []) (by simp) ht h.trimStart.1 hx

end Layout

/-! ## Ends and openers -/

namespace Block

/-- In a balanced list of lines ends never outnumber the blocks opened so far. -/
theorem countP_isEnd_le {dialect : Option Dialect} {depth : Nat} {pieces front : List Text}
    (h : front <+: balanceFrom dialect depth pieces) :
    front.countP isEnd ≤ depth + front.countP (opens dialect) := by
  induction pieces generalizing depth front with
  | nil =>
    rw [balanceFrom, List.prefix_nil] at h
    simp [h]
  | cons line pieces ih =>
    rw [balanceFrom_cons] at h
    split at h
    · next hdropped =>
      have := ih h
      omega
    · next hkept =>
      rcases List.prefix_cons_iff.1 h with rfl | ⟨rest, rfl, hrest⟩
      · simp
      · have := ih hrest
        rw [depthAfter] at this
        cases hend : isEnd line <;> cases hopens : opens dialect line <;>
          simp [hend, hopens] at this hkept ⊢ <;> omega

theorem trim_trimStart (line : Text) : trim (trimStart line) = trim line := by
  rw [trim, trim, trimStart, trimStart, dropWhile_dropWhile]

theorem countP_trimStart {f : Text → Bool} (hf : ∀ line, f (trimStart line) = f line)
    (line : Text) (rest : List Text) :
    (trimStart line :: rest).countP f = (line :: rest).countP f := by
  rw [List.countP_cons, List.countP_cons, hf]

/-- Indentation does not matter to ends and openers. -/
theorem countP_isEnd_le_of_cons {dialect : Option Dialect} {pieces : List Text} {first : Text}
    {rest : List Text} (h : balance dialect pieces = first :: rest) {front : List Text}
    (hfront : front <+: trimStart first :: rest) :
    front.countP isEnd ≤ front.countP (opens dialect) := by
  rcases List.prefix_cons_iff.1 hfront with rfl | ⟨kept, rfl, hkept⟩
  · simp
  · have hprefix : first :: kept <+: balanceFrom dialect 0 pieces := by
      rw [← balance, h]
      exact List.cons_prefix_cons.2 ⟨rfl, hkept⟩
    have := countP_isEnd_le hprefix
    rw [countP_trimStart (fun line => by rw [isEnd, isEnd, trim_trimStart]),
      countP_trimStart (fun line => by rw [opens, opens, trim_trimStart])]
    omega

end Block

namespace Repair

open Layout Block Separator

/-! ## The lines of a repaired diagram -/

theorem plain_rebuilt (dialect : Option Dialect) (code : Text) :
    Plain (rebuilt dialect (source code)) := by
  rw [rebuilt]
  split
  · exact ClassBlock.plain_rebuild (plain_source code)
  · exact plain_source code

theorem plain_compactLines (dialect : Option Dialect) (code : Text) :
    ∀ line ∈ compactLines dialect (source code), Plain line := by
  have hnormal := stable_plain.normalize dialect (plain_rebuilt dialect code)
  have hlines := stable_plain.rework (rework_compactLines dialect (source code) false)
    ((stable_plain.newlines _).2 hnormal)
  intro line hline
  refine hlines.subset fun c hc => List.mem_cons_of_mem _ ?_
  exact List.mem_flatMap.2 ⟨line, hline, List.mem_append_left _ hc⟩

theorem repairedLines_subset (dialect : Option Dialect) (source : Text) :
    repairedLines dialect source ⊆ compactLines dialect source :=
  fun _ h => (align_sublist _).subset ((balance_sublist _ _).subset h)

/-- If a repaired line is a directive, the first one is. -/
theorem isDirective_of_cons {dialect : Option Dialect} {source first line : Text}
    {rest : List Text} (h : repairedLines dialect source = first :: rest)
    (hline : line ∈ first :: rest) (hdirective : isDirective line = true) :
    isDirective first = true := by
  cases hfound : (compactLines dialect source).findSome? ofDirective? with
  | none =>
    have hmem := repairedLines_subset dialect source (h ▸ hline)
    rw [isDirective, List.findSome?_eq_none_iff.1 hfound line hmem] at hdirective
    simp at hdirective
  | some found =>
    obtain ⟨lead, tail, halign, hlead⟩ := align_of_findSome? hfound
    obtain ⟨kept, hkept⟩ := balance_cons_of_not_isEnd dialect (isEnd_of_ofDirective? hlead) tail
    rw [← halign] at hkept
    obtain ⟨rfl, -⟩ := List.cons.inj (h.symm.trans hkept)
    simp [isDirective, hlead]

theorem isDirective_trimStart (line : Text) : isDirective (trimStart line) = isDirective line := by
  rw [isDirective, isDirective, ofDirective?_congr (trim_trimStart line)]

/-- What every repaired diagram looks like. -/
structure WellShaped (dialect : Option Dialect) (t : Text) : Prop where
  trimmed : Trimmed t
  plain : Plain t
  spaced : ∀ line ∈ segmentLines t, WellSpaced line
  leading : (∃ line ∈ segmentLines t, isDirective line = true) →
    ∃ first rest, segmentLines t = first :: rest ∧ isDirective first = true
  /-- No line closes a block that none of the lines before it opened. -/
  ends : ∀ front, front <+: segmentLines t → front.countP isEnd ≤ front.countP (opens dialect)

/-- Whatever it is repaired from, a repaired diagram that is not empty is well shaped. -/
theorem wellShaped_repair {code : Text} (h : repair code ≠ []) :
    WellShaped (detect? (source code)) (repair code) := by
  cases hlines : repairedLines (detect? (source code)) (source code) with
  | nil => exact absurd (repair_of_nil hlines) h
  | cons first rest =>
    have hcompact : ∀ line ∈ first :: rest, Compact line := by
      intro line hline
      exact compact_of_mem_repairedLines (hlines ▸ hline)
    have hplain : ∀ line ∈ first :: rest, Plain line := by
      intro line hline
      exact plain_compactLines _ code line (repairedLines_subset _ _ (hlines ▸ hline))
    rw [List.forall_mem_cons] at hcompact hplain
    obtain ⟨w, -, hfirst, -⟩ := exists_trimStart first
    have hstart : ∀ c ∈ trimStart first, c ∈ first := by
      intro c hc
      rw [hfirst]
      exact List.mem_append_right w hc
    have hpieces : segmentLines (repair code) = trimStart first :: rest := by
      rw [repair_of_cons hlines]
      refine segmentLines_joinLines (by simp) (List.forall_mem_cons.2 ⟨?_, ?_⟩)
      · exact fun hn => hcompact.1.newline (hstart _ hn)
      · exact fun line hline => (hcompact.2 line hline).newline
    refine ⟨?_, ?_, ?_, ?_, ?_⟩
    · rw [repair_eq]
      exact trimmed_trim _
    · rw [repair_of_cons hlines]
      exact plain_joinLines.2 (List.forall_mem_cons.2 ⟨hplain.1.subset hstart, hplain.2⟩)
    · rw [hpieces]
      refine List.forall_mem_cons.2 ⟨hcompact.1.wellSpaced_trimStart, ?_⟩
      exact fun line hline => (hcompact.2 line hline).wellSpaced
    · rw [hpieces]
      rintro ⟨line, hline, hdirective⟩
      refine ⟨_, _, rfl, ?_⟩
      rw [isDirective_trimStart]
      rcases List.mem_cons.1 hline with rfl | hline
      · rwa [isDirective_trimStart] at hdirective
      · exact isDirective_of_cons hlines (List.mem_cons_of_mem _ hline) hdirective
    · rw [hpieces]
      intro front hfront
      exact countP_isEnd_le_of_cons hlines hfront

theorem wellShaped_repair_classes :
    repair "x\u2028classDiagram\nclass A \x7b\n a:\tint\u00A0\n end\nend".toList ≠ [] ∧
      WellShaped (detect? (source "x\u2028classDiagram\nclass A \x7b\n a:\tint\u00A0\n end\nend".toList))
        (repair "x\u2028classDiagram\nclass A \x7b\n a:\tint\u00A0\n end\nend".toList) := by
  have h : repair "x\u2028classDiagram\nclass A \x7b\n a:\tint\u00A0\n end\nend".toList ≠ [] := by
    decide +kernel
  exact ⟨h, wellShaped_repair h⟩

end Repair

end DiagramStudio
