import DiagramStudio.Diagram.Repair
import DiagramStudio.Proofs.Diagram.Balance
import DiagramStudio.Proofs.Diagram.Directive
import DiagramStudio.Proofs.Diagram.Label
import DiagramStudio.Proofs.Diagram.Source

/-!
# The repaired lines

The repaired diagram joins compact lines, of which the first has lost its indentation. Its first
line declares what the first directive among the compact lines declares: alignment puts that line
first, and balancing never drops it.
-/

namespace DiagramStudio

open Text Dialect

namespace Layout

/-- Alignment starts with the first directive. -/
theorem align_of_findSome? {pieces : List Text} {dialect : Dialect}
    (h : pieces.findSome? ofDirective? = some dialect) :
    ∃ line rest, align pieces = line :: rest ∧ ofDirective? line = some dialect := by
  obtain ⟨before, line, rest, rfl, hline, hbefore⟩ := List.findSome?_eq_some_iff.1 h
  refine ⟨line, rest, ?_, hline⟩
  have hdirective : isDirective line = true := by simp [isDirective, hline]
  have hskip : ∀ l ∈ before, (!isDirective l) = true := by
    intro l hl
    simp [isDirective, hbefore l hl]
  have hany : (before ++ line :: rest).any isDirective = true := by simp [hdirective]
  rw [align, if_pos hany, List.dropWhile_append_of_pos hskip]
  simp [hdirective]

/-- Without a directive all lines stay. -/
theorem align_of_findSome?_eq_none {pieces : List Text}
    (h : pieces.findSome? ofDirective? = none) : align pieces = pieces := by
  have hnone : pieces.any isDirective = false := by
    rw [List.any_eq_false]
    intro line hline
    simp [isDirective, List.findSome?_eq_none_iff.1 h line hline]
  rw [align, hnone]
  rfl

theorem align_sublist (pieces : List Text) : (align pieces).Sublist pieces := by
  rw [align]
  split
  · exact List.dropWhile_sublist _
  · exact List.Sublist.refl _

/-- Compacting neither adds nor removes a directive. -/
theorem findSome?_compact (t : Text) :
    (compact t).findSome? ofDirective? = (segmentLines t).findSome? ofDirective? := by
  have hpieces : ∀ piece ∈ segmentLines t, '\n' ∉ piece :=
    fun _ => newline_not_mem_of_mem_segmentLines
  rw [compact]
  generalize segmentLines t = pieces at hpieces ⊢
  induction pieces with
  | nil => rfl
  | cons piece pieces ih =>
    rw [List.forall_mem_cons] at hpieces
    have hpiece := ofDirective?_compactLine hpieces.1
    have ih := ih hpieces.2
    rw [List.map_cons, List.filter_cons, List.findSome?_cons, ← hpiece]
    cases hempty : (compactLine piece).isEmpty with
    | true =>
      rw [List.isEmpty_iff.1 hempty, ofDirective?_nil]
      exact ih
    | false =>
      rw [← ih]
      exact List.findSome?_cons

end Layout

namespace Repair

open Layout Block Span

/-- The compact lines of a source with normalized labels. -/
def compactLines (dialect : Option Dialect) (source : Text) : List Text :=
  compact (Label.normalize dialect (rebuilt dialect source))

theorem rework_compactLines (dialect : Option Dialect) (source : Text) (b : Bool) :
    Rework edit b ('\n' :: (Label.normalize dialect (rebuilt dialect source) ++ ['\n']))
      ('\n' :: terminated (compactLines dialect source)) := by
  rw [← terminated_segmentLines]
  exact rework_compact _ (x := ['\n']) idle_newline (by simp) b

theorem rework_balance (dialect : Option Dialect) (pieces : List Text) (b : Bool) :
    Rework dropLines b ('\n' :: terminated pieces)
      ('\n' :: terminated (balance dialect pieces)) :=
  rework_balanceFrom dialect 0 pieces (x := ['\n']) idle_newline (by simp) b

/-- Newlines around the lines of a text belong to no span. -/
theorem closedSpans_terminated (d : Delimiter) (pieces : List Text) :
    closedSpans d ('\n' :: terminated pieces) = closedSpans d (joinLines pieces) := by
  have h := closedSpans_idle_append d idle_newline (terminated pieces)
  rw [List.singleton_append] at h
  rw [h]
  cases pieces with
  | nil => rfl
  | cons piece pieces =>
    rw [← joinLines_append_newline (by simp), closedSpans_append_idle d _ idle_newline]

theorem compact_of_mem_repairedLines {dialect : Option Dialect} {source line : Text}
    (h : line ∈ repairedLines dialect source) : Compact line :=
  compact_of_mem ((align_sublist _).subset ((balance_sublist _ _).subset h))

/-- The repaired diagram joins its lines, of which the first has lost its indentation. -/
theorem repair_of_cons {code first : Text} {rest : List Text}
    (h : repairedLines (detect? (source code)) (source code) = first :: rest) :
    repair code = joinLines (trimStart first :: rest) := by
  rw [repair_eq, h]
  refine trim_joinLines ?_
  intro line hline
  exact compact_of_mem_repairedLines (h ▸ hline)

theorem repair_of_nil {code : Text}
    (h : repairedLines (detect? (source code)) (source code) = []) : repair code = [] := by
  rw [repair_eq, h]
  decide

/-- The first line of a repaired diagram declares the dialect of its first repaired line. -/
theorem leading?_repair_of_cons {code first : Text} {rest : List Text}
    (h : repairedLines (detect? (source code)) (source code) = first :: rest) :
    leading? (repair code) = ofDirective? first := by
  have hcompact := compact_of_mem_repairedLines (h ▸ List.mem_cons_self ..)
  obtain ⟨w, hw, hfirst, -⟩ := exists_trimStart first
  have hnw : '\n' ∉ w := by
    intro hn
    apply hcompact.newline
    rw [hfirst]
    exact List.mem_append_left _ hn
  rw [repair_of_cons h, leading?_eq, stem_joinLines, ofDirective?_eq hcompact.newline]
  conv_rhs => rw [hfirst, stem_blank_append hw hnw]

/-- The first line of a repaired diagram is the first directive among the compact lines. -/
theorem leading?_repair (code : Text) :
    leading? (repair code) =
      (compactLines (detect? (source code)) (source code)).findSome? ofDirective? := by
  set dialect := detect? (source code)
  cases h : (compactLines dialect (source code)).findSome? ofDirective? with
  | some found =>
    -- The directive comes first, and it is no end.
    obtain ⟨line, rest, halign, hline⟩ := align_of_findSome? h
    obtain ⟨kept, hkept⟩ := balance_cons_of_not_isEnd dialect (isEnd_of_ofDirective? hline) rest
    rw [← halign] at hkept
    rw [leading?_repair_of_cons hkept, hline]
  | none =>
    -- Whatever line comes first declares nothing.
    cases hlines : repairedLines dialect (source code) with
    | nil =>
      rw [repair_of_nil hlines]
      decide
    | cons first rest =>
      have hmem : first ∈ compactLines dialect (source code) := by
        refine (align_sublist _).subset ((balance_sublist dialect _).subset ?_)
        change first ∈ repairedLines dialect (source code)
        rw [hlines]
        exact List.mem_cons_self ..
      rw [leading?_repair_of_cons hlines]
      exact List.findSome?_eq_none_iff.1 h first hmem

/-! ## Sources that start with a directive -/

section

variable {dialect : Dialect} {s : Text}

theorem rebuilt_of_ne (hd : dialect ≠ .classes) (s : Text) : rebuilt (some dialect) s = s := by
  simp [rebuilt, hd]

/-- A directive on the first line of a source is the first compact line. -/
theorem compactLines_of_leading? (hd : dialect ≠ .classes) (ht : Trimmed s)
    (h : leading? s = some dialect) :
    ∃ first rest, compactLines (some dialect) s = first :: rest ∧
      ofDirective? first = some dialect ∧
      ∀ c, first.head? = some c → isBlank c = false := by
  obtain ⟨piece, pieces, hpieces, hstem⟩ := stem_firstLine (Label.normalize (some dialect) s)
  have hn : '\n' ∉ piece := by
    refine newline_not_mem_of_mem_segmentLines (t := Label.normalize (some dialect) s) ?_
    rw [hpieces]
    exact List.mem_cons_self ..
  rw [leading?_eq, ← Label.stem_normalize (some dialect) s, hstem] at h
  have hne : piece ≠ [] := by
    rintro rfl
    exact stem_ne_nil h rfl
  have hhead : ∀ c, piece.head? = some c → isBlank c = false := by
    intro c hc
    refine ht.head c ?_
    rw [← Label.head?_normalize (some dialect) s, head?_eq_of_segmentLines hpieces hne, hc]
  have hkept : compactLine piece ≠ [] := by
    intro hnil
    rw [← stem_compactLine hn, hnil] at h
    exact stem_ne_nil h rfl
  refine ⟨compactLine piece, (pieces.map compactLine).filter fun line => !line.isEmpty, ?_, ?_, ?_⟩
  · rw [compactLines, rebuilt_of_ne hd, compact, hpieces, List.map_cons, List.filter_cons]
    simp [hkept]
  · rwa [ofDirective?_compactLine hn, ofDirective?_eq hn]
  · intro c hc
    exact hhead c (by rwa [head?_compactLine hhead] at hc)

/-- Nothing is dropped before a directive on the first line. -/
theorem repairedLines_of_leading? (hd : dialect ≠ .classes) (ht : Trimmed s)
    (h : leading? s = some dialect) :
    repairedLines (some dialect) s = balance (some dialect) (compactLines (some dialect) s) := by
  obtain ⟨first, rest, hlines, hfirst, -⟩ := compactLines_of_leading? hd ht h
  have halign : align (compactLines (some dialect) s) = compactLines (some dialect) s := by
    have hdirective : isDirective first = true := by simp [isDirective, hfirst]
    simp [hlines, align, hdirective]
  rw [← halign]
  rfl

/-- The lines of a diagram repaired from a source that starts with a directive. -/
theorem repair_of_leading? {code : Text} (hd : dialect ≠ .classes)
    (h : leading? (source code) = some dialect) :
    ∃ first rest, repairedLines (some dialect) (source code) = first :: rest ∧
      ofDirective? first = some dialect ∧ (∀ c, first.head? = some c → isBlank c = false) ∧
      repair code = joinLines (first :: rest) := by
  have ht := trimmed_source code
  obtain ⟨first, rest, hcompact, hfirst, hhead⟩ := compactLines_of_leading? hd ht h
  obtain ⟨kept, hkept⟩ :=
    balance_cons_of_not_isEnd (some dialect) (isEnd_of_ofDirective? hfirst) rest
  rw [← hcompact, ← repairedLines_of_leading? hd ht h] at hkept
  have hlines : repairedLines (detect? (source code)) (source code) = first :: kept := by
    rw [detect?_of_leading? h, hkept]
  have hrepair := repair_of_cons hlines
  rw [trimStart_of_head hhead] at hrepair
  exact ⟨first, kept, hkept, hfirst, hhead, hrepair⟩

/-- What passes keep holds of the repaired diagram. -/
theorem stable_repair {P : Text → Prop} (hP : Label.Stable P) {code : Text}
    (hd : dialect ≠ .classes) (h : leading? (source code) = some dialect)
    (hnormal : P (Label.normalize (some dialect) (source code))) : P (repair code) := by
  obtain ⟨first, rest, hlines, -, -, hrepair⟩ := repair_of_leading? hd h
  have hcompact := rework_compactLines (some dialect) (source code) false
  have hbalance := (rework_balance (some dialect) (compactLines (some dialect) (source code))
    false).mono (S := edit) fun _ _ _ _ => Or.inr
  rw [rebuilt_of_ne hd] at hcompact
  rw [← repairedLines_of_leading? hd (trimmed_source code) h, hlines] at hbalance
  rw [hrepair, ← hP.terminated (by simp)]
  exact hP.rework hbalance (hP.rework hcompact ((hP.newlines _).2 hnormal))

end

end Repair

end DiagramStudio
