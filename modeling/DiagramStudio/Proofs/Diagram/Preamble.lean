import DiagramStudio.Proofs.Diagram.Alignment
import DiagramStudio.Proofs.Diagram.ClassLine

/-!
# Text before the directive

Lines before the directive that declare nothing and open no span make no difference to the repaired
diagram. The passes over labels copy them, the fold over a class diagram is back at its start after
each of them, and alignment drops them. The indentation of the directive makes none either, since it
is trimmed away in the end.

## Main definitions

- `Layout.Preliminary`: a line that declares nothing and opens no span
-/

namespace DiagramStudio

open Text Dialect

/-! ## Preliminary lines -/

namespace Layout

/-- A line that declares nothing and opens no span. -/
structure Preliminary (line : Text) : Prop where
  newline : '\n' ∉ line
  opener : ∀ d : Delimiter, d.opener ∉ line
  directive : isDirective line = false

theorem isDirective_congr {line line' : Text} (h : trim line = trim line') :
    isDirective line = isDirective line' := by
  rw [isDirective, isDirective, ofDirective?_congr h]

theorem Preliminary.of_blank {line : Text} (h : ∀ c ∈ line, isBlank c = true) (hn : '\n' ∉ line) :
    Preliminary line where
  newline := hn
  opener d hd := by
    have hblank := h _ hd
    rw [Span.isBlank_opener] at hblank
    simp at hblank
  directive := by
    rw [isDirective, Repair.ofDirective?_of_blank h]
    rfl

theorem Preliminary.trim {line : Text} (h : Preliminary line) : Preliminary (trim line) where
  newline hn := h.newline ((trim_isInfix line).subset hn)
  opener d hd := h.opener d ((trim_isInfix line).subset hd)
  directive := by rw [isDirective_congr (trimmed_trim line).trim_eq, h.directive]

theorem align_append {front back : List Text} (hfront : ∀ line ∈ front, isDirective line = false)
    (hback : back.any isDirective = true) : align (front ++ back) = align back := by
  have hskip : ∀ line ∈ front, (!isDirective line) = true := by
    intro line hline
    simp [hfront line hline]
  rw [align, align, List.any_append, hback, Bool.or_true, if_pos rfl, if_pos rfl,
    List.dropWhile_append_of_pos hskip]

end Layout

open Layout

/-! ## The fold over a class diagram -/

namespace ClassBlock

theorem preliminary_statement {line : Text} (h : Preliminary line) :
    Preliminary (statement line) where
  newline := by
    have hindent : '\n' ∉ statementIndent := by decide
    rw [statement, List.mem_append, not_or]
    exact ⟨hindent, h.newline⟩
  opener d := by
    have hindent : d.opener ∉ statementIndent := by cases d <;> decide
    rw [statement, List.mem_append, not_or]
    exact ⟨hindent, h.opener d⟩
  directive := by
    rw [statement, isDirective_congr (trim_blank_append blank_statementIndent line), h.directive]

theorem isDirective_of_kind {line : Text} (ht : Trimmed line)
    (h : LineKind.of line = .directive) : isDirective line = true := by
  have hword : startsWithWord "classDiagram".toList line = true := by
    rw [LineKind.of] at h
    split at h
    · assumption
    · split at h
      · simp at h
      · split at h
        · rw [declaration] at h
          split at h <;> split at h <;> simp at h
        · split at h
          · simp at h
          · split at h <;> simp at h
  rw [isDirective, ofDirective?, ht.trim_eq, List.find?_isSome]
  exact ⟨.classes, by decide, hword⟩

/-- A class name behind the keyword `class` declares no dialect. -/
theorem preliminary_bare {line name : Text} (h : Preliminary line)
    (hkind : LineKind.of line = .bare name) : Preliminary ("class ".toList ++ name) := by
  obtain ⟨-, w, v, -, -, hline⟩ := eq_of_kind_bare hkind
  have hname : ∀ c ∈ name, c ∈ line := by
    intro c hc
    simp [hline, hc]
  have hn : '\n' ∉ "class ".toList ++ name := by
    have hkeyword : '\n' ∉ "class ".toList := by decide
    rw [List.mem_append, not_or]
    exact ⟨hkeyword, fun hc => h.newline (hname _ hc)⟩
  refine ⟨hn, ?_, ?_⟩
  · intro d
    have hkeyword : d.opener ∉ "class ".toList := by cases d <;> decide
    rw [List.mem_append, not_or]
    exact ⟨hkeyword, fun hc => h.opener d (hname _ hc)⟩
  · have hstem : stem ("class ".toList ++ name) = "class".toList := rfl
    have hnone : ofStem? "class".toList = none := by decide
    rw [isDirective, ofDirective?_eq hn, hstem, hnone]
    rfl

/-- After a preliminary line no class and no other scope is open. -/
theorem step_of_preliminary {line : Text} (ht : Trimmed line) (h : Preliminary line) :
    ∃ written, step .start line = (.start, written) ∧ ∀ l ∈ written, Preliminary l := by
  have hstatement : ∀ l ∈ [statement line], Preliminary l := by simpa using preliminary_statement h
  have hscopes : State.start.scopesAfter line = 0 := by
    have hlast : line.getLast? ≠ some '{' :=
      fun hlast => h.opener .curly (List.mem_of_mem_getLast? hlast)
    rw [State.scopesAfter, if_neg hlast]
    rfl
  rw [step]
  cases hkind : LineKind.of line with
  | directive =>
    have hdirective := isDirective_of_kind ht hkind
    rw [h.directive] at hdirective
    simp at hdirective
  | aside => exact ⟨_, rfl, hstatement⟩
  | header name =>
    -- A header ends in an opening brace.
    obtain ⟨-, w, v, u, -, -, -, hline⟩ := eq_of_kind_header hkind
    exact absurd (by simp [hline, Delimiter.opener]) (h.opener .curly)
  | bare name =>
    refine ⟨_, rfl, ?_⟩
    simpa [State.flushed, State.start] using preliminary_statement (preliminary_bare h hkind)
  | otherClass =>
    rw [hscopes]
    exact ⟨_, rfl, hstatement⟩
  | closer => exact ⟨[], rfl, by simp⟩
  | member =>
    rw [hscopes]
    exact ⟨_, rfl, hstatement⟩
  | other =>
    rw [hscopes]
    exact ⟨_, rfl, hstatement⟩

/-- Preliminary lines are written as preliminary lines, and what follows is read from the start. -/
theorem run_append_of_preliminary {pieces : List Text}
    (h : ∀ line ∈ pieces, Trimmed line ∧ Preliminary line) :
    ∃ written, (∀ line ∈ written, Preliminary line) ∧
      ∀ rest, run .start (pieces ++ rest) = written ++ run .start rest := by
  induction pieces with
  | nil => exact ⟨[], by simp, fun _ => rfl⟩
  | cons line pieces ih =>
    rw [List.forall_mem_cons] at h
    obtain ⟨first, hstep, hfirst⟩ := step_of_preliminary h.1.1 h.1.2
    obtain ⟨written, hwritten, hrun⟩ := ih h.2
    refine ⟨first ++ written, List.forall_mem_append.2 ⟨hfirst, hwritten⟩, ?_⟩
    intro rest
    rw [List.cons_append, run, hstep, hrun, List.append_assoc]

theorem inkedLines_append (t u : Text) :
    inkedLines (t ++ '\n' :: u) = inkedLines t ++ inkedLines u := by
  rw [inkedLines_eq, segmentLines_append_newline, List.map_append, List.filter_append,
    ← inkedLines_eq, ← inkedLines_eq]

/-- A directive on the first line is the first line that is written. -/
theorem run_inkedLines_of_leading? {source : Text} (h : leading? source = some .classes) :
    ∃ line rest, run .start (inkedLines source) = line :: rest ∧
      ofDirective? line = some .classes ∧ '\n' ∉ line := by
  obtain ⟨line, rest, hpieces⟩ := List.exists_cons_of_ne_nil (segmentLines_ne_nil source)
  rw [leading?_of_segmentLines hpieces] at h
  have htrim : ofDirective? (trim line) = some .classes := by
    rw [ofDirective?_congr (trimmed_trim line).trim_eq, h]
  have hne := ne_nil_of_ofDirective? htrim
  have hn : '\n' ∉ line := newline_not_mem_of_mem_segmentLines (hpieces ▸ List.mem_cons_self ..)
  have hstep : step .start (trim line) = (.start, [trim line]) := by
    rw [step, kind_of_directive h]
  have hinked : inkedLines source =
      trim line :: (rest.map trim).filter fun line => !line.isEmpty := by
    rw [inkedLines_eq, hpieces, List.map_cons, List.filter_cons, if_pos (by simpa using hne)]
  refine ⟨trim line, run .start ((rest.map trim).filter fun line => !line.isEmpty), ?_, htrim,
    fun hmem => hn ((trim_isInfix line).subset hmem)⟩
  rw [hinked, run, hstep]
  rfl

end ClassBlock

/-! ## The passes -/

namespace Span

theorem collapse_append_of_not_mem {d : Delimiter} {x : Text} (hx : d.opener ∉ x) (t : Text) :
    collapse d (x ++ t) = x ++ collapse d t := by
  induction x with
  | nil => rfl
  | cons c x ih =>
    simp only [List.mem_cons, not_or] at hx
    rw [List.cons_append, collapse_cons_of_ne (Ne.symm hx.1), ih hx.2, List.cons_append]

end Span

namespace Label

/-- What every single pass copies, whatever follows it, all passes copy. -/
theorem collapseAll_append {x : Text}
    (hx : ∀ d t, Span.collapse d (x ++ t) = x ++ Span.collapse d t)
    (dialect : Option Dialect) (t : Text) :
    collapseAll dialect (x ++ t) = x ++ collapseAll dialect t := by
  rw [collapseAll, collapseAll]
  induction delimiters dialect generalizing t with
  | nil => rfl
  | cons d ds ih => rw [List.foldl_cons, List.foldl_cons, hx, ih]

theorem collapseAll_append_of_not_mem {x : Text} (hx : ∀ d : Delimiter, d.opener ∉ x)
    (dialect : Option Dialect) (t : Text) :
    collapseAll dialect (x ++ t) = x ++ collapseAll dialect t :=
  collapseAll_append (fun d => Span.collapse_append_of_not_mem (hx d)) dialect t

end Label

namespace Repair

variable {dialect : Dialect} {front s : Text}

theorem opener_not_mem_terminated {pieces : List Text} (h : ∀ piece ∈ pieces, Preliminary piece)
    (d : Delimiter) : d.opener ∉ terminated pieces := by
  intro hmem
  obtain ⟨piece, hpiece, hmem⟩ := List.mem_flatMap.1 hmem
  rcases List.mem_append.1 hmem with hmem | hmem
  · exact (h piece hpiece).opener d hmem
  · have hnewline : d.opener ∉ ['\n'] := by cases d <;> decide
    exact hnewline hmem

/-- Rebuilding turns preliminary lines into preliminary lines. -/
theorem rebuilt_append (hfront : ∀ line ∈ segmentLines front, Preliminary line)
    (h : leading? s = some dialect) :
    ∃ pieces, (∀ piece ∈ pieces, Preliminary piece) ∧
      rebuilt (some dialect) (front ++ '\n' :: s) =
        terminated pieces ++ rebuilt (some dialect) s := by
  by_cases hd : dialect = .classes
  · subst hd
    have hinked : ∀ line ∈ ClassBlock.inkedLines front, Trimmed line ∧ Preliminary line := by
      intro line hline
      obtain ⟨-, piece, hpiece, rfl⟩ := ClassBlock.mem_inkedLines hline
      exact ⟨trimmed_trim piece, (hfront piece hpiece).trim⟩
    obtain ⟨pieces, hpieces, hrun⟩ := ClassBlock.run_append_of_preliminary hinked
    obtain ⟨line, rest, hsource, -, -⟩ := ClassBlock.run_inkedLines_of_leading? h
    refine ⟨pieces, hpieces, ?_⟩
    rw [rebuilt, if_pos rfl, rebuilt, if_pos rfl, ClassBlock.rebuild, ClassBlock.rebuild,
      ClassBlock.inkedLines_append, hrun, joinLines_append_terminated _ (by simp [hsource])]
  · refine ⟨segmentLines front, hfront, ?_⟩
    rw [rebuilt_of_ne hd, rebuilt_of_ne hd, terminated_segmentLines]
    simp

theorem compactLines_eq (dialect : Option Dialect) (source : Text) :
    compactLines dialect source =
      ((segmentLines (Label.collapseAll dialect (rebuilt dialect source))).map
        fun line => compactLine (EdgeLabel.spellOut line)).filter fun line => !line.isEmpty := by
  rw [compactLines, compact, Label.segmentLines_normalize, List.map_map]
  rfl

/-- Preliminary lines leave lines that declare nothing. -/
theorem compactLines_append (hfront : ∀ line ∈ segmentLines front, Preliminary line)
    (h : leading? s = some dialect) :
    ∃ dropped, (∀ line ∈ dropped, isDirective line = false) ∧
      compactLines (some dialect) (front ++ '\n' :: s) =
        dropped ++ compactLines (some dialect) s := by
  obtain ⟨pieces, hpieces, hrebuilt⟩ := rebuilt_append hfront h
  refine ⟨(pieces.map fun line => compactLine (EdgeLabel.spellOut line)).filter
    fun line => !line.isEmpty, ?_, ?_⟩
  · intro line hline
    obtain ⟨piece, hpiece, rfl⟩ := List.mem_map.1 (List.mem_filter.1 hline).1
    have hpiece := hpieces piece hpiece
    rw [isDirective, ofDirective?_compactLine (EdgeLabel.newline_not_mem_spellOut hpiece.newline),
      ofDirective?_spellOut hpiece.newline]
    exact hpiece.directive
  · rw [compactLines_eq, hrebuilt,
      Label.collapseAll_append_of_not_mem (opener_not_mem_terminated hpieces),
      segmentLines_terminated_append fun piece hpiece => (hpieces piece hpiece).newline,
      List.map_append, List.filter_append, ← compactLines_eq]

/-! ## Alignment -/

theorem leading?_rebuilt (h : leading? s = some dialect) :
    leading? (rebuilt (some dialect) s) = some dialect := by
  by_cases hd : dialect = .classes
  · subst hd
    obtain ⟨line, rest, hrun, hline, hn⟩ := ClassBlock.run_inkedLines_of_leading? h
    rw [rebuilt, if_pos rfl, ClassBlock.rebuild, hrun, leading?_eq, stem_joinLines,
      ← ofDirective?_eq hn, hline]
  · rw [rebuilt_of_ne hd, h]

theorem any_isDirective_compactLines (h : leading? s = some dialect) :
    (compactLines (some dialect) s).any isDirective = true := by
  have hfound : (compactLines (some dialect) s).findSome? ofDirective? = some dialect := by
    rw [findSome?_compactLines, Span.exposed, List.findSome?_cons, leading?_rebuilt h]
  obtain ⟨line, hline, hdirective⟩ := List.exists_of_findSome?_eq_some hfound
  rw [List.any_eq_true]
  exact ⟨line, hline, by simp [isDirective, hdirective]⟩

/-- Alignment drops what preliminary lines leave. -/
theorem repairedLines_append (hfront : ∀ line ∈ segmentLines front, Preliminary line)
    (h : leading? s = some dialect) :
    repairedLines (some dialect) (front ++ '\n' :: s) = repairedLines (some dialect) s := by
  obtain ⟨dropped, hdropped, hcompact⟩ := compactLines_append hfront h
  have halign := align_append hdropped (any_isDirective_compactLines h)
  rw [← hcompact] at halign
  exact congrArg (Block.balance (some dialect)) halign

/-! ## Indentation -/

theorem spellOut_blank_append {w : Text} (hw : ∀ c ∈ w, isBlank c = true) (line : Text) :
    EdgeLabel.spellOut (w ++ line) = w ++ EdgeLabel.spellOut line := by
  rw [EdgeLabel.spellOut, EdgeLabel.spellOut]
  induction w with
  | nil => rfl
  | cons c w ih =>
    have hc := hw c (List.mem_cons_self ..)
    have hpipe : c ≠ '|' := by
      rintro rfl
      simp [EdgeLabel.isBlank_pipe] at hc
    rw [List.cons_append, EdgeLabel.spellFrom, if_neg hpipe, if_pos hc,
      ih fun c' hc' => hw c' (List.mem_cons_of_mem c hc'), List.cons_append]

theorem compactLine_blank_append {w line : Text} (hw : ∀ c ∈ w, isBlank c = true)
    (h : compactLine line ≠ []) : compactLine (w ++ line) = w ++ compactLine line := by
  rcases compactLine_cases line with ⟨-, hnil⟩ | ⟨i, x, v, hi, hv, hx, hne, rfl, hcompact⟩
  · exact absurd hnil h
  · have hwi : ∀ c ∈ w ++ i, isBlank c = true := List.forall_mem_append.2 ⟨hw, hi⟩
    rw [hcompact, ← List.append_assoc, compactLine_append hwi hv hx hne, List.append_assoc]

/-- The indentation of a source with a directive on its first line stays before that line. -/
theorem compactLines_blank_append (hd : dialect ≠ .classes) {w : Text}
    (hw : ∀ c ∈ w, isBlank c = true) (hn : '\n' ∉ w) (h : leading? s = some dialect) :
    ∃ first rest, compactLines (some dialect) s = first :: rest ∧
      compactLines (some dialect) (w ++ s) = (w ++ first) :: rest ∧
      ofDirective? first = some dialect := by
  obtain ⟨line, pieces, hpieces⟩ := List.exists_cons_of_ne_nil
    (segmentLines_ne_nil (Label.collapseAll (some dialect) s))
  have hline : '\n' ∉ line := newline_not_mem_of_mem_segmentLines (hpieces ▸ List.mem_cons_self ..)
  have hdirective : ofDirective? (compactLine (EdgeLabel.spellOut line)) = some dialect := by
    rw [ofDirective?_compactLine (EdgeLabel.newline_not_mem_spellOut hline),
      ofDirective?_spellOut hline, ← leading?_of_segmentLines hpieces, leading?_eq,
      Label.collapseAll_keeps stem_collapse, ← leading?_eq, h]
  have hne := ne_nil_of_ofDirective? hdirective
  have hcollapse : Label.collapseAll (some dialect) (w ++ s) =
      w ++ Label.collapseAll (some dialect) s :=
    Label.collapseAll_append_of_not_mem (Preliminary.of_blank hw hn).opener _ s
  refine ⟨compactLine (EdgeLabel.spellOut line), (pieces.map fun line =>
    compactLine (EdgeLabel.spellOut line)).filter fun line => !line.isEmpty, ?_, ?_, hdirective⟩
  · rw [compactLines_eq, rebuilt_of_ne hd, hpieces, List.map_cons, List.filter_cons,
      if_pos (by simpa using hne)]
  · rw [compactLines_eq, rebuilt_of_ne hd, hcollapse, segmentLines_append_of_not_mem hn hpieces,
      List.map_cons, spellOut_blank_append hw, compactLine_blank_append hw hne, List.filter_cons,
      if_pos (by simp [hne])]

theorem inkedLines_blank_append {w : Text} (hw : ∀ c ∈ w, isBlank c = true) (hn : '\n' ∉ w)
    (t : Text) : ClassBlock.inkedLines (w ++ t) = ClassBlock.inkedLines t := by
  obtain ⟨line, rest, hpieces⟩ := List.exists_cons_of_ne_nil (segmentLines_ne_nil t)
  rw [ClassBlock.inkedLines_eq, ClassBlock.inkedLines_eq, segmentLines_append_of_not_mem hn hpieces,
    hpieces, List.map_cons, List.map_cons, trim_blank_append hw]

theorem align_cons {first : Text} (h : isDirective first = true) (rest : List Text) :
    align (first :: rest) = first :: rest := by
  simp [align, h]

/-- Indentation is no matter of balance. -/
theorem balance_blank_append {w line : Text} (hw : ∀ c ∈ w, isBlank c = true)
    (h : Block.isEnd line = false) (dialect : Option Dialect) (rest : List Text) :
    ∃ kept, Block.balance dialect (line :: rest) = line :: kept ∧
      Block.balance dialect ((w ++ line) :: rest) = (w ++ line) :: kept := by
  have hend : Block.isEnd (w ++ line) = Block.isEnd line := by
    rw [Block.isEnd, Block.isEnd, trim_blank_append hw]
  have hopens : Block.opens dialect (w ++ line) = Block.opens dialect line := by
    rw [Block.opens, Block.opens, trim_blank_append hw]
  refine ⟨Block.balanceFrom dialect (Block.depthAfter dialect 0 line) rest, ?_, ?_⟩
  · rw [Block.balance, Block.balanceFrom_cons, if_neg (by simp [h])]
  · rw [Block.balance, Block.balanceFrom_cons, if_neg (by simp [hend, h]), Block.depthAfter, hend,
      hopens, ← Block.depthAfter]

theorem trim_repairedLines_blank_append {w : Text} (hw : ∀ c ∈ w, isBlank c = true)
    (hn : '\n' ∉ w) (h : leading? s = some dialect) :
    trim (joinLines (repairedLines (some dialect) (w ++ s))) =
      trim (joinLines (repairedLines (some dialect) s)) := by
  by_cases hd : dialect = .classes
  · -- Rebuilding trims the lines, so the indentation is lost at once.
    subst hd
    have hrebuilt : rebuilt (some .classes) (w ++ s) = rebuilt (some .classes) s := by
      rw [rebuilt, if_pos rfl, rebuilt, if_pos rfl, ClassBlock.rebuild,
        inkedLines_blank_append hw hn, ClassBlock.rebuild]
    rw [repairedLines, hrebuilt, repairedLines]
  · obtain ⟨first, rest, hcompact, hindented, hfirst⟩ := compactLines_blank_append hd hw hn h
    obtain ⟨kept, hkept, hkept'⟩ :=
      balance_blank_append hw (Block.isEnd_of_ofDirective? hfirst) (some dialect) rest
    have hdirective : isDirective first = true := by simp [isDirective, hfirst]
    have hdirective' : isDirective (w ++ first) = true := by
      rw [isDirective_congr (trim_blank_append hw first), hdirective]
    have hlines : repairedLines (some dialect) s = first :: kept := by
      rw [← hkept, ← align_cons hdirective rest, ← hcompact]
      rfl
    have hlines' : repairedLines (some dialect) (w ++ s) = (w ++ first) :: kept := by
      rw [← hkept', ← align_cons hdirective' rest, ← hindented]
      rfl
    rw [hlines, hlines', joinLines_append_cons, trim_blank_append hw]

/-! ## The preamble -/

/-- Preliminary lines and blanks before a directive make no difference to what is repaired. -/
theorem trim_repairedLines_append (hfront : ∀ line ∈ segmentLines front, Preliminary line)
    {w : Text} (hw : ∀ c ∈ w, isBlank c = true) (h : leading? s = some dialect) :
    trim (joinLines (repairedLines (detect? (front ++ '\n' :: (w ++ s)))
        (front ++ '\n' :: (w ++ s)))) =
      trim (joinLines (repairedLines (detect? s) s)) := by
  -- The blank lines are preliminary as well, which leaves the indentation of the directive.
  obtain ⟨front', indent, hfront', hindent, hn, htext⟩ : ∃ front' indent : Text,
      (∀ line ∈ segmentLines front', Preliminary line) ∧ (∀ c ∈ indent, isBlank c = true) ∧
        '\n' ∉ indent ∧ front ++ '\n' :: (w ++ s) = front' ++ '\n' :: (indent ++ s) := by
    cases hcut : cutLast? '\n' w with
    | none => exact ⟨front, w, hfront, hw, cutLast?_eq_none_iff.1 hcut, rfl⟩
    | some parts =>
      obtain ⟨hparts, hn⟩ := cutLast?_eq_some hcut
      refine ⟨front ++ '\n' :: parts.1, parts.2, ?_, ?_, hn, by simp [hparts]⟩
      · rw [segmentLines_append_newline, List.forall_mem_append]
        refine ⟨hfront, fun line hline => .of_blank ?_ (newline_not_mem_of_mem_segmentLines hline)⟩
        intro c hc
        have hmem := mem_of_mem_segmentLines hline hc
        exact hw c (by simp [hparts, hmem])
      · exact fun c hc => hw c (by simp [hparts, hc])
  have hleading : leading? (indent ++ s) = some dialect := by
    rw [leading?_eq, stem_blank_append hindent hn, ← leading?_eq, h]
  have hdetect : detect? (front' ++ '\n' :: (indent ++ s)) = some dialect := by
    have hnone : (segmentLines front').findSome? ofDirective? = none := by
      rw [List.findSome?_eq_none_iff]
      intro line hline
      simpa [isDirective] using (hfront' line hline).directive
    rw [detect?_eq, segmentLines_append_newline, List.findSome?_append, hnone, ← detect?_eq,
      detect?_of_leading? hleading]
    rfl
  rw [htext, hdetect, repairedLines_append hfront' hleading,
    trim_repairedLines_blank_append hindent hn h, detect?_of_leading? h]

end Repair

end DiagramStudio
