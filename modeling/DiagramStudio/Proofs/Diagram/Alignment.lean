import DiagramStudio.Proofs.Diagram.Content

/-!
# Alignment to the directive

The dialect is found before labels are collapsed and the lines are aligned afterwards, so both
searches agree only on lines that collapsing leaves apart. These are the `exposed` ones: the lines
whose start no closed span covers. A repaired diagram starts with the first directive on an exposed
line. It is never empty if the source has a directive at all, on whatever line.

## Main definitions

- `Span.covers`: a span that is open at some place and is closed later
- `Span.exposed`: the texts from each line on that no closed span covers
- `Repair.Unusable`: sources of blank lines and ends
-/

namespace DiagramStudio

open Text Dialect

namespace Span

/-- True when a span is open at `p` and is closed in the rest of the text. -/
def covers (d : Delimiter) (p : Cursor) (t : Text) : Bool := p != .outside && (closing? d p t).isSome

/-- The rests of a text from each line on that starts outside the closed spans of all `ds`, where
`p` tells where the scans for the delimiters stand. -/
def exposedFrom (ds : List Delimiter) (p : Delimiter → Cursor) : Text → List Text
  | [] => []
  | c :: t =>
    let next := fun d => (p d).next d c
    if c = '\n' ∧ ∀ d ∈ ds, covers d (next d) t = false then t :: exposedFrom ds next t
    else exposedFrom ds next t

/-- The rests of a text from each line on that starts outside the closed spans of all `ds`. -/
def exposed (ds : List Delimiter) (t : Text) : List Text :=
  t :: exposedFrom ds (fun _ => .outside) t

variable {d : Delimiter} {ds : List Delimiter} {p : Delimiter → Cursor}

/-! ## Lines inside and outside spans -/

theorem exposedFrom_cons_of_ne {c : Char} (hc : c ≠ '\n') (t : Text) :
    exposedFrom ds p (c :: t) = exposedFrom ds (fun d => (p d).next d c) t := by
  rw [exposedFrom, if_neg fun h => hc h.1]

example : exposed [.square] "A[x\ny]\nB".toList = ["A[x\ny]\nB".toList, "B".toList] := by decide

theorem exposedFrom_append {x : Text} (hx : '\n' ∉ x) (t : Text) :
    exposedFrom ds p (x ++ t) = exposedFrom ds (fun d => scan d (p d) x) t := by
  induction x generalizing p with
  | nil => rfl
  | cons c x ih =>
    simp only [List.mem_cons, not_or] at hx
    rw [List.cons_append, exposedFrom_cons_of_ne (Ne.symm hx.1), ih hx.2]
    rfl

/-- A closed span covers all its lines. -/
theorem exposedFrom_closes {x : Text} (hp : p d ≠ .outside) (hx : Closes d (p d) x) (t : Text) :
    exposedFrom (d :: ds) p (x ++ t) = exposedFrom (d :: ds) (fun d => scan d (p d) x) t := by
  generalize hq : p d = q at hp hx
  induction hx generalizing p with
  | @last q c hc =>
    have hne : c ≠ '\n' := by
      cases q with
      | outside => exact absurd rfl hp
      | inside n e =>
        rw [(eq_closer_of_next hc).1]
        cases d <;> decide
    exact exposedFrom_append (by simpa using hne.symm) t
  | @cons q c x hc hx ih =>
    have hcovers : covers d ((p d).next d c) (x ++ t) = true := by
      simp [covers, hq, hc, hx.closing?]
    rw [List.cons_append, exposedFrom, if_neg, ih (by rw [hq]) hc]
    · rfl
    · rintro ⟨-, h⟩
      rw [h d (List.mem_cons_self ..)] at hcovers
      simp at hcovers

/-- A span that is never closed covers nothing. -/
theorem exposedFrom_of_closing?_eq_none {t : Text} (hp : p d ≠ .outside)
    (h : closing? d (p d) t = none) : exposedFrom (d :: ds) p t = exposedFrom ds p t := by
  induction t generalizing p with
  | nil => rfl
  | cons c t ih =>
    rw [closing?] at h
    split at h
    · simp at h
    · next hc =>
      have hnone : closing? d ((p d).next d c) t = none := by simpa using h
      have hcovers : covers d ((p d).next d c) t = false := by simp [covers, hnone]
      rw [exposedFrom, exposedFrom, ih hc hnone]
      simp only [List.forall_mem_cons, hcovers, true_and]

/-! ## Exposed lines after a pass -/

theorem covers_of_rework {b : Bool} {t u : Text} (h : Rework respell b t u) (d : Delimiter)
    (q : Cursor) : covers d q t = covers d q u := by
  by_cases hq : q = .outside
  · simp [covers, hq]
  · rw [covers, covers, h.closing?_isSome inert_respell d hq]

/-- What a pass leaves exposed was exposed before and starts with the same stem. -/
theorem stem_exposedFrom_collapse (hp : p d = .outside) (t : Text) :
    (exposedFrom ds p (collapse d t)).map stem = (exposedFrom (d :: ds) p t).map stem := by
  induction t using spans_induction d generalizing p with
  | nil =>
    rw [collapse_nil]
    rfl
  | char c t hc ih =>
    -- The other scans stand alike in both texts and cover the same lines.
    have hnext : (p d).next d c = .outside := by rw [hp, Cursor.next, if_neg hc]
    have hcovers : ∀ d', covers d' ((p d').next d' c) (collapse d t) =
        covers d' ((p d').next d' c) t :=
      fun d' => (covers_of_rework (rework_collapse d false t) d' _).symm
    have houtside : covers d ((p d).next d c) t = false := by simp [covers, hnext]
    rw [collapse_cons_of_ne hc, exposedFrom, exposedFrom]
    simp only [hcovers, List.forall_mem_cons, houtside, true_and]
    split
    · rw [List.map_cons, List.map_cons, stem_collapse, ih hnext]
    · exact ih hnext
  | span x r hx ih =>
    have hopener : d.opener ≠ '\n' := by cases d <;> decide
    have hnext : (p d).next d d.opener = .opened := by rw [hp, Cursor.next, if_pos rfl]
    have hscan : ∀ d', scan d' ((p d').next d' d.opener) (tidy d (.start d) x) =
        scan d' ((p d').next d' d.opener) x :=
      fun d' => ((rework_tidy_span hx).scan_eq inert_respell d' _).symm
    -- The tidied span is a single line, and the span before it covers all its lines.
    rw [collapse_span hx, exposedFrom_cons_of_ne hopener, exposedFrom_cons_of_ne hopener,
      exposedFrom_append (newline_not_mem_tidy hx),
      exposedFrom_closes (by rw [hnext]; exact opened_ne_outside) (by rw [hnext]; exact hx)]
    simp only [hscan]
    exact ih (by rw [hnext, hx.scan])
  | tail t ht =>
    have hopener : d.opener ≠ '\n' := by cases d <;> decide
    have hnext : (p d).next d d.opener = .opened := by rw [hp, Cursor.next, if_pos rfl]
    rw [collapse_tail ht, exposedFrom_cons_of_ne hopener, exposedFrom_cons_of_ne hopener,
      exposedFrom_of_closing?_eq_none (by rw [hnext]; exact opened_ne_outside)
        (by rw [hnext]; exact ht)]

/-- After all passes every line is exposed, and the stems are those of the lines exposed before. -/
theorem stem_exposed_foldl (ds : List Delimiter) (t : Text) :
    (exposed [] (ds.foldl (fun t d => collapse d t) t)).map stem = (exposed ds t).map stem := by
  induction ds generalizing t with
  | nil => rfl
  | cons d ds ih =>
    rw [List.foldl_cons, ih, exposed, exposed, List.map_cons, List.map_cons, stem_collapse,
      stem_exposedFrom_collapse rfl]

/-- Without delimiters all lines are exposed. -/
theorem findSome?_exposed_nil (t : Text) :
    (exposed [] t).findSome? leading? = (segmentLines t).findSome? ofDirective? := by
  have htail : ∀ p : Delimiter → Cursor, (exposedFrom [] p t).findSome? leading? =
      (segmentLines t).tail.findSome? ofDirective? := by
    induction t with
    | nil => exact fun _ => rfl
    | cons c t ih =>
      intro p
      obtain ⟨line, rest, h⟩ := List.exists_cons_of_ne_nil (segmentLines_ne_nil t)
      have ih := ih fun d => (p d).next d c
      rw [h, List.tail_cons] at ih
      by_cases hc : c = '\n'
      · subst hc
        rw [exposedFrom, if_pos ⟨rfl, by simp⟩, List.findSome?_cons, ih,
          leading?_of_segmentLines h, segmentLines_newline_cons, h, List.tail_cons]
        exact List.findSome?_cons.symm
      · rw [exposedFrom_cons_of_ne hc, ih, segmentLines_cons_of_ne hc h, List.tail_cons]
  obtain ⟨line, rest, h⟩ := List.exists_cons_of_ne_nil (segmentLines_ne_nil t)
  rw [exposed, List.findSome?_cons, htail, leading?_of_segmentLines h, h, List.tail_cons]
  exact List.findSome?_cons.symm

end Span

/-! ## The directive of a class diagram -/

namespace ClassBlock

theorem kind_of_directive {line : Text} (h : ofDirective? line = some .classes) :
    LineKind.of (trim line) = .directive := by
  have hword : startsWithWord "classDiagram".toList (trim line) = true :=
    startsWithWord_of_ofDirective? h
  rw [LineKind.of, if_pos hword]

/-- A directive is written as soon as it is read. -/
theorem mem_run {line : Text} (hline : LineKind.of line = .directive) (pieces : List Text)
    (h : line ∈ pieces) (s : State) : line ∈ run s pieces := by
  induction pieces generalizing s with
  | nil => simp at h
  | cons piece pieces ih =>
    rw [run]
    rcases List.mem_cons.1 h with rfl | h
    · have hstep : (step s line).2 = [line] := by rw [step, hline]
      simp [hstep]
    · exact List.mem_append_right _ (ih h _)

/-- Rebuilding keeps the directive, on a line of its own. -/
theorem exists_directive_rebuild {source : Text} (h : detect? source = some .classes) :
    ∃ line ∈ segmentLines (rebuild source), ofDirective? line = some .classes := by
  obtain ⟨line, hline, hdirective⟩ := List.exists_of_findSome?_eq_some h
  have hkind := kind_of_directive hdirective
  have htrim : ofDirective? (trim line) = some .classes := by
    rw [ofDirective?_congr (trimmed_trim line).trim_eq, hdirective]
  have hne := ne_nil_of_ofDirective? htrim
  refine ⟨trim line, mem_segmentLines_joinLines (mem_run hkind _ ?_ .start) ?_, htrim⟩
  · exact List.mem_filter.2 ⟨List.mem_map_of_mem hline, by simpa using hne⟩
  · intro hn
    exact newline_not_mem_of_mem_lines hline ((trim_isInfix line).subset hn)

end ClassBlock

namespace Repair

open Span Layout Block

/-! ## The first line of a repaired diagram -/

theorem exists_directive_rebuilt {source : Text} {dialect : Dialect}
    (h : detect? source = some dialect) :
    ∃ line ∈ segmentLines (rebuilt (some dialect) source), ofDirective? line = some dialect := by
  by_cases hd : dialect = .classes
  · subst hd
    exact ClassBlock.exists_directive_rebuild h
  · rw [rebuilt_of_ne hd]
    rw [detect?_eq] at h
    exact List.exists_of_findSome?_eq_some h

theorem ofDirective?_of_blank {line : Text} (h : ∀ c ∈ line, isBlank c = true) :
    ofDirective? line = none := by
  rw [ofDirective?, trim_of_blank h]
  decide

/-- A source in which every line is blank or reads `end`. -/
def Unusable (source : Text) : Prop :=
  ∀ line ∈ segmentLines source, blank line = true ∨ isEnd line = true

instance (source : Text) : Decidable (Unusable source) :=
  inferInstanceAs (Decidable (∀ line ∈ segmentLines source, _))

/-- Where no line is left, the lines that were balanced were all dropped as ends: alignment drops
lines before a directive only, and the directive is no end. -/
theorem balance_compactLines_eq_nil {dialect : Option Dialect} {source : Text}
    (h : repairedLines dialect source = []) :
    balance dialect (compactLines dialect source) = [] := by
  cases hfound : (compactLines dialect source).findSome? ofDirective? with
  | some found =>
    obtain ⟨line, rest, halign, hline⟩ := align_of_findSome? hfound
    obtain ⟨kept, hkept⟩ := balance_cons_of_not_isEnd dialect (isEnd_of_ofDirective? hline) rest
    rw [← halign] at hkept
    exact absurd (hkept.symm.trans h) (by simp)
  | none =>
    rw [← align_of_findSome?_eq_none hfound]
    exact h

/-- No line is left only of an unusable source, since only ends are ever dropped with their content.
For class diagrams this is the rebuilt source. -/
theorem unusable_of_repairedLines_eq_nil {dialect : Option Dialect} {source : Text}
    (h : repairedLines dialect source = []) : Unusable (rebuilt dialect source) := by
  obtain ⟨kept, hkept, hcontent⟩ := leaves_balance dialect source
  rw [balance_compactLines_eq_nil h, List.flatMap_nil, List.flatMap_eq_nil_iff] at hcontent
  intro line hline
  by_cases hend : isEnd line = true
  · exact .inr hend
  · have hmem := hkept.mem hline (by simpa using hend)
    exact .inl (List.all_eq_true.2 (blank_of_content_eq_nil (hcontent line hmem)))

/-- A directive makes a source usable. -/
theorem Unusable.ofDirective? {source line : Text} (h : Unusable source)
    (hline : line ∈ segmentLines source) : ofDirective? line = none := by
  rcases h line hline with hblank | hend
  · exact ofDirective?_of_blank (List.all_eq_true.1 hblank)
  · cases hdirective : Dialect.ofDirective? line with
    | none => rfl
    | some dialect =>
      rw [isEnd_of_ofDirective? hdirective] at hend
      simp at hend

/-- Of a source with a directive some line is left. -/
theorem repairedLines_ne_nil {source : Text} {dialect : Dialect}
    (h : detect? source = some dialect) : repairedLines (some dialect) source ≠ [] := by
  intro hnil
  obtain ⟨line, hline, hdirective⟩ := exists_directive_rebuilt h
  have hnone := (unusable_of_repairedLines_eq_nil hnil).ofDirective? hline
  rw [hdirective] at hnone
  simp at hnone

theorem findSome?_compactLines (dialect : Option Dialect) (source : Text) :
    (compactLines dialect source).findSome? ofDirective? =
      (exposed (Label.delimiters dialect) (rebuilt dialect source)).findSome? leading? := by
  have hleading : leading? = ofStem? ∘ stem := funext leading?_eq
  have hpieces : ∀ line ∈ segmentLines (Label.collapseAll dialect (rebuilt dialect source)),
      '\n' ∉ line := fun _ => newline_not_mem_of_mem_segmentLines
  calc (compactLines dialect source).findSome? ofDirective?
      = ((segmentLines (Label.collapseAll dialect (rebuilt dialect source))).map
          EdgeLabel.spellOut).findSome? ofDirective? := by
        rw [compactLines, findSome?_compact, Label.segmentLines_normalize]
    _ = (segmentLines (Label.collapseAll dialect (rebuilt dialect source))).findSome?
          ofDirective? := findSome?_spellOut hpieces
    _ = (exposed [] (Label.collapseAll dialect (rebuilt dialect source))).findSome? leading? :=
        (findSome?_exposed_nil _).symm
    _ = ((exposed [] (Label.collapseAll dialect (rebuilt dialect source))).map stem).findSome?
          ofStem? := by rw [hleading, List.findSome?_map]
    _ = ((exposed (Label.delimiters dialect) (rebuilt dialect source)).map stem).findSome?
          ofStem? := by rw [Label.collapseAll, stem_exposed_foldl]
    _ = (exposed (Label.delimiters dialect) (rebuilt dialect source)).findSome? leading? := by
        rw [hleading, List.findSome?_map]

/-- A source with a directive is repaired to a diagram that is not empty and starts with the first
directive on an exposed line. This is the directive that was found first unless a closed span
covers its line. -/
theorem leading?_repair_of_detect? {code : Text} {dialect : Dialect}
    (h : detect? (source code) = some dialect) :
    repair code ≠ [] ∧ leading? (repair code) =
      (exposed (Label.delimiters (some dialect))
        (rebuilt (some dialect) (source code))).findSome? leading? := by
  refine ⟨?_, ?_⟩
  · cases hlines : repairedLines (detect? (source code)) (source code) with
    | nil =>
      rw [h] at hlines
      exact absurd hlines (repairedLines_ne_nil h)
    | cons first rest =>
      have hcompact := compact_of_mem_repairedLines (hlines ▸ List.mem_cons_self ..)
      rw [repair_of_cons hlines]
      exact joinLines_ne_nil hcompact.trimStart.1 rest
  · rw [leading?_repair, h, findSome?_compactLines]

theorem leading?_repair_of_detect?_span :
    detect? (source "[\ngraph TD\n]".toList) = some .graph ∧
      repair "[\ngraph TD\n]".toList ≠ [] ∧
      leading? (repair "[\ngraph TD\n]".toList) =
        (exposed (Label.delimiters (some .graph))
          (rebuilt (some .graph) (source "[\ngraph TD\n]".toList))).findSome? leading? := by
  have h : detect? (source "[\ngraph TD\n]".toList) = some .graph := by decide +kernel
  exact ⟨h, leading?_repair_of_detect? h⟩

/-- A closed span over the line of the only directive hides it. -/
theorem not_leading?_repair :
    ¬ ∀ code dialect, detect? (source code) = some dialect →
      repair code ≠ [] ∧ leading? (repair code) = some dialect := by
  intro h
  have hdetect : detect? (source "[\ngraph TD\n]".toList) = some .graph := by decide +kernel
  have hnone : leading? (repair "[\ngraph TD\n]".toList) = none := by decide +kernel
  have hsome := (h _ _ hdetect).2
  rw [hnone] at hsome
  simp at hsome

end Repair

end DiagramStudio
